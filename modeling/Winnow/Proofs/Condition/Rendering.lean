import Winnow.Condition.Template

/-!
What the operations on templates do to the text, the arguments and the height. The text is that for
an element or for an item: a root is nothing, or the variable that the fields are moved under.
-/

namespace Winnow

namespace Segment

def renderAt : Option String → Segment → String
  | none => render
  | some root => renderUnder root

@[simp] theorem renderAt_text (root : Option String) (s : String) :
    (text s).renderAt root = s := by
  cases root <;> rfl

theorem concat_append (render : Segment → String) (segments more : List Segment) :
    concat render (segments ++ more) = concat render segments ++ concat render more := by
  induction segments with
  | nil => simp [concat]
  | cons s segments ih => simp [concat, ih, String.append_assoc]

theorem concat_pushText (root : Option String) (t : String) (segments : List Segment) :
    concat (renderAt root) (pushText t segments) = concat (renderAt root) segments ++ t := by
  fun_induction pushText t segments with
  | case1 h => simp [concat, String.isEmpty_iff.mp h]
  | case2 h => simp [concat]
  | case3 s => simp [concat]
  | case4 s rest _ ih => simp [concat, ih, String.append_assoc]

theorem concat_push (root : Option String) (segments : List Segment) (s : Segment) :
    concat (renderAt root) (push segments s) =
      concat (renderAt root) segments ++ s.renderAt root := by
  cases s with
  | text t => simp [push, concat_pushText]
  | field path => simp [push, concat_append, concat]
  | owner path => simp [push, concat_append, concat]

theorem concat_foldl_push (root : Option String) (segments more : List Segment) :
    concat (renderAt root) (more.foldl push segments) =
      concat (renderAt root) segments ++ concat (renderAt root) more := by
  induction more generalizing segments with
  | nil => simp [concat]
  | cons s more ih => simp [concat, ih, concat_push, String.append_assoc]

end Segment

namespace Template

def renderAt (root : Option String) (t : Template) : String :=
  Segment.concat (Segment.renderAt root) t.segments

variable (root : Option String) (t u : Template) (s path : String) (argument : Argument)

theorem render_eq : t.render = t.renderAt none := rfl

@[simp] theorem renderAt_empty : empty.renderAt root = "" := rfl

@[simp] theorem renderAt_text : (t.text s).renderAt root = t.renderAt root ++ s := by
  simp [renderAt, text, Segment.concat_push]

@[simp] theorem renderAt_field :
    (t.field path).renderAt root = t.renderAt root ++ (Segment.field path).renderAt root := by
  simp [renderAt, field, Segment.concat_push]

@[simp] theorem renderAt_owner :
    (t.owner path).renderAt root = t.renderAt root ++ (Segment.owner path).renderAt root := by
  simp [renderAt, owner, Segment.concat_push]

@[simp] theorem renderAt_bind : (t.bind argument).renderAt root = t.renderAt root ++ "?" :=
  renderAt_text root t "?"

@[simp] theorem renderAt_append :
    (t.append u).renderAt root = t.renderAt root ++ u.renderAt root :=
  Segment.concat_foldl_push root t.segments u.segments

/-- Once it is moved under a variable, a template has the same text at every root. -/
@[simp] theorem renderAt_under (item : String) :
    (t.under item).renderAt root = t.renderAt (some item) := by
  rw [renderAt, under, Segment.concat_pushText, Segment.concat, String.empty_append]
  rfl

@[simp] theorem arguments_empty : empty.arguments = [] := rfl

@[simp] theorem arguments_text : (t.text s).arguments = t.arguments := rfl

@[simp] theorem arguments_field : (t.field path).arguments = t.arguments := rfl

@[simp] theorem arguments_owner : (t.owner path).arguments = t.arguments := rfl

@[simp] theorem arguments_bind : (t.bind argument).arguments = t.arguments ++ [argument] := rfl

@[simp] theorem arguments_append : (t.append u).arguments = t.arguments ++ u.arguments := rfl

@[simp] theorem arguments_under : (t.under s).arguments = t.arguments := rfl

@[simp] theorem height_empty : empty.height = 0 := rfl

@[simp] theorem height_text : (t.text s).height = t.height := rfl

@[simp] theorem height_field : (t.field path).height = t.height := rfl

@[simp] theorem height_owner : (t.owner path).height = t.height := rfl

@[simp] theorem height_bind : (t.bind argument).height = t.height := rfl

@[simp] theorem height_append : (t.append u).height = max t.height u.height := rfl

@[simp] theorem height_under : (t.under s).height = t.height := rfl

end Template

end Winnow
