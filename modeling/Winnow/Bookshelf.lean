import Winnow.Condition.KeyPath
import Winnow.Enumeration

/-!
A small shelf of books to try queries on: its records, their documents and their key paths.
-/

namespace Winnow

def Enumeration.document (e : Enumeration) (name : String) : Json :=
  ((e.value? name).map fun v => v.bind.toJson).getD .null

def bookStates : Enumeration where
  isBacked := true
  variants := [{ name := "Draft", discriminant := some 0 },
    { name := "Published", discriminant := some 1 }]

def genres : Enumeration where
  isBacked := false
  variants := [{ name := "Adventure" }, { name := "Fantasy" },
    { name := "ScienceFiction", boundName := some "sci-fi" }]

structure Review where
  stars : Nat
  reviewer : String

structure Chapter where
  id : Int
  title : String
  wordCount : Nat
  reviews : List Review

structure Book where
  id : Int
  title : String
  author : String
  /-- Seconds it takes to read the book. -/
  readingTime : Nat
  state : String
  genre : String
  tags : List String
  chapters : List Chapter
  reviews : List Review
  nextInSeries : Option Book

def Review.document (r : Review) : Json :=
  .ofMembers [("stars", .ofInt r.stars), ("reviewer", .string r.reviewer)]

def Chapter.document (c : Chapter) : Json :=
  .ofMembers [("id", .ofInt c.id), ("title", .string c.title), ("wordCount", .ofInt c.wordCount),
    ("reviews", .array (c.reviews.map Review.document))]

/-- The members of a book before the next one of its series. -/
def Book.members (id : Int) (title author : String) (readingTime : Nat) (state genre : String)
    (tags : List String) (chapters : List Chapter) (reviews : List Review) : List (String × Json) :=
  [("id", .ofInt id), ("title", .string title), ("author", .string author),
    ("readingTime", .ofDouble (.ofInt readingTime)), ("state", bookStates.document state),
    ("genre", genres.document genre), ("tags", .array (tags.map .string)),
    ("chapters", .array (chapters.map Chapter.document)),
    ("reviews", .array (reviews.map Review.document))]

def Book.document : Book → Json
  | ⟨id, title, author, time, state, genre, tags, chapters, reviews, none⟩ =>
    .ofMembers (("nextInSeries", .null) ::
      Book.members id title author time state genre tags chapters reviews)
  | ⟨id, title, author, time, state, genre, tags, chapters, reviews, some next⟩ =>
    .ofMembers (("nextInSeries", next.document) ::
      Book.members id title author time state genre tags chapters reviews)

def Chapter.toValue (c : Chapter) : Value := .integer c.id

def Book.toValue (b : Book) : Value := .integer b.id

def Book.paths : List (String × KeyPath) :=
  [("id", ⟨"id"⟩), ("title", ⟨"title"⟩), ("author", ⟨"author"⟩),
    ("reading_time", ⟨"readingTime"⟩), ("state", ⟨"state"⟩), ("genre", ⟨"genre"⟩),
    ("tags", ⟨"tags"⟩), ("chapters", ⟨"chapters"⟩), ("reviews", ⟨"reviews"⟩),
    ("next_in_series", ⟨"nextInSeries"⟩), ("this", .element)]

def Chapter.paths : List (String × KeyPath) :=
  [("id", ⟨"id"⟩), ("title", ⟨"title"⟩), ("word_count", ⟨"wordCount"⟩),
    ("reviews", ⟨"reviews"⟩), ("this", .element)]

def Review.paths : List (String × KeyPath) :=
  [("stars", ⟨"stars"⟩), ("reviewer", ⟨"reviewer"⟩), ("this", .element)]

namespace Bookshelf

def ratings (stars : List Nat) : List Review := stars.map (⟨·, "anonymous"⟩)

def around : Book where
  id := 2
  title := "Around the World"
  author := "Jules Verne"
  readingTime := 12600
  state := "Published"
  genre := "Adventure"
  tags := ["classic"]
  chapters := []
  reviews := ratings [2, 3]
  nextInSeries := none

def traveller : Book where
  id := 1
  title := "The Naïve Traveller"
  author := "Jules Verne"
  readingTime := 10800
  state := "Published"
  genre := "Adventure"
  tags := ["classic", "travel"]
  chapters :=
    [⟨11, "Departure", 3000, [⟨5, "ada"⟩]⟩,
      ⟨12, "Naïve Beginnings", 2500, [⟨4, "ada"⟩, ⟨2, "bob"⟩]⟩]
  reviews := ratings [3, 4, 5, 4, 4, 5]
  nextInSeries := some around

def wizard : Book where
  id := 3
  title := "Harry Potter"
  author := "J. K. Rowling"
  readingTime := 14400
  state := "Draft"
  genre := "Fantasy"
  tags := []
  chapters := [⟨31, "Hogwarts", 5000, [⟨5, "cy"⟩]⟩, ⟨32, "Diagon Alley", 4000, []⟩]
  reviews := ratings [5, 5]
  nextInSeries := none

def dune : Book where
  id := 4
  title := "Dune"
  author := "Frank Herbert"
  readingTime := 72000
  state := "Published"
  genre := "ScienceFiction"
  tags := ["sci-fi", "epic"]
  chapters :=
    [⟨41, "Arrakis", 8000, [⟨1, "dan"⟩, ⟨2, "eve"⟩]⟩, ⟨42, "Desert", 9000, [⟨3, "dan"⟩]⟩]
  reviews := ratings [4, 4, 3]
  nextInSeries := none

def books : List Book := [traveller, around, wizard, dune]

end Bookshelf

end Winnow
