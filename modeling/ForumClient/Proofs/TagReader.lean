import ForumClient.Text.Basic
import Mathlib.Data.List.Basic

namespace ForumClient.Markup

structure Tag where
  closing : Bool := false
  name : Text := []
  attributes : List (Text × Text) := []
  deriving DecidableEq, Repr

inductive Item
  | char : Char → Item
  | tag : Tag → Item
  deriving DecidableEq, Repr

inductive Mode
  | outside
  | tagName : Tag → Mode
  | between : Tag → Mode
  | attributeName : Tag → (name : Text) → Mode
  | equals : Tag → (name : Text) → Mode
  | quoted : Tag → (name value : Text) → Mode
  | bare : Tag → (name value : Text) → Mode
  deriving DecidableEq, Repr

def Tag.with (t : Tag) (name value : Text) : Tag :=
  { t with attributes := t.attributes ++ [(name, value)] }

def isSpace (c : Char) : Bool := c ∈ [' ', '\t', '\n', '\x0c', '\r']

def Mode.step : Mode → Char → Option Item × Mode
  | .outside, c => if c = '<' then (none, .tagName {}) else (some (.char c), .outside)
  | .tagName t, c =>
    if c = '>' then (some (.tag t), .outside)
    else if isSpace c then (none, .between t)
    else if c = '/' ∧ t = {} then (none, .tagName { closing := true })
    else (none, .tagName { t with name := t.name ++ [c] })
  | .between t, c =>
    if c = '>' then (some (.tag t), .outside)
    else if isSpace c then (none, .between t)
    else (none, .attributeName t [c])
  | .attributeName t name, c =>
    if c = '>' then (some (.tag (t.with name [])), .outside)
    else if isSpace c then (none, .between (t.with name []))
    else if c = '=' then (none, .equals t name)
    else (none, .attributeName t (name ++ [c]))
  | .equals t name, c =>
    if c = '>' then (some (.tag (t.with name [])), .outside)
    else if isSpace c then (none, .equals t name)
    else if c = '"' then (none, .quoted t name [])
    else (none, .bare t name [c])
  | .quoted t name value, c =>
    if c = '"' then (none, .between (t.with name value))
    else (none, .quoted t name (value ++ [c]))
  | .bare t name value, c =>
    if c = '>' then (some (.tag (t.with name value)), .outside)
    else if isSpace c then (none, .between (t.with name value))
    else (none, .bare t name (value ++ [c]))

def read (m : Mode) : Text → List Item × Mode
  | [] => ([], m)
  | c :: s => ((m.step c).1.toList ++ (read (m.step c).2 s).1, (read (m.step c).2 s).2)

variable {m : Mode} {t : Tag} {name value s : Text} {attributes : List (Text × Text)}

theorem read_append (m : Mode) (s u : Text) : read m (s ++ u) =
    ((read m s).1 ++ (read (read m s).2 u).1, (read (read m s).2 u).2) := by
  induction s generalizing m with
  | nil => rfl
  | cons c s ih => simp only [List.cons_append, read, ih, List.append_assoc]

theorem read_cons_of_step {c : Char} {m' : Mode} (h : m.step c = (none, m')) (s : Text) :
    read m (c :: s) = read m' s := by
  rw [read, h]
  rfl

theorem read_append_of_eq {m' : Mode} (h : read m s = ([], m')) (u : Text) :
    read m (s ++ u) = read m' u := by
  rw [read_append, h]
  rfl

theorem read_text (hs : '<' ∉ s) : read .outside s = (s.map .char, .outside) := by
  induction s with
  | nil => rfl
  | cons c s ih =>
    rw [List.mem_cons, not_or] at hs
    rw [read, Mode.step, if_neg (Ne.symm hs.1), ih hs.2]
    rfl

def IsPlainChar (c : Char) : Prop := c ≠ '>' ∧ isSpace c = false ∧ c ≠ '=' ∧ c ≠ '/'

instance : DecidablePred IsPlainChar := fun _ => inferInstanceAs (Decidable (_ ∧ _))

def IsPlainName (s : Text) : Prop := ∀ c ∈ s, IsPlainChar c

instance (s : Text) : Decidable (IsPlainName s) := List.decidableBAll IsPlainChar s

theorem read_tagName (hs : IsPlainName s) (t : Tag) :
    read (.tagName t) s = ([], .tagName { t with name := t.name ++ s }) := by
  induction s generalizing t with
  | nil => simp [read]
  | cons c s ih =>
    obtain ⟨⟨hend, hspace, -, hslash⟩, hs⟩ := List.forall_mem_cons.mp hs
    have hstep : (Mode.tagName t).step c = (none, .tagName { t with name := t.name ++ [c] }) := by
      simp [Mode.step, hend, hspace, hslash]
    rw [read_cons_of_step hstep, ih hs]
    simp

theorem read_attributeName (hs : IsPlainName s) (t : Tag) (name : Text) :
    read (.attributeName t name) s = ([], .attributeName t (name ++ s)) := by
  induction s generalizing name with
  | nil => simp [read]
  | cons c s ih =>
    obtain ⟨⟨hend, hspace, heq, -⟩, hs⟩ := List.forall_mem_cons.mp hs
    have hstep : (Mode.attributeName t name).step c = (none, .attributeName t (name ++ [c])) := by
      simp [Mode.step, hend, hspace, heq]
    rw [read_cons_of_step hstep, ih hs]
    simp

theorem read_quoted (hs : '"' ∉ s) (t : Tag) (name value : Text) :
    read (.quoted t name value) s = ([], .quoted t name (value ++ s)) := by
  induction s generalizing value with
  | nil => simp [read]
  | cons c s ih =>
    rw [List.mem_cons, not_or] at hs
    have hstep : (Mode.quoted t name value).step c = (none, .quoted t name (value ++ [c])) := by
      simp [Mode.step, Ne.symm hs.1]
    rw [read_cons_of_step hstep, ih hs.2]
    simp

def attributeText : Text × Text → Text
  | (name, value) => ' ' :: (name ++ ('=' :: '"' :: (value ++ ['"'])))

structure IsAttribute (name value : Text) : Prop where
  ne_nil : name ≠ []
  plain : IsPlainName name
  closed : '"' ∉ value

inductive AtGap (t : Tag) : Mode → Prop
  | tagName : AtGap t (.tagName t)
  | between : AtGap t (.between t)

theorem AtGap.step_space (h : AtGap t m) : m.step ' ' = (none, .between t) := by
  cases h <;> rfl

theorem AtGap.step_end (h : AtGap t m) : m.step '>' = (some (.tag t), .outside) := by
  cases h <;> rfl

theorem IsAttribute.read_name (h : IsAttribute name value) (t : Tag) :
    read (.between t) name = ([], .attributeName t name) := by
  obtain ⟨c, name, rfl⟩ := List.exists_cons_of_ne_nil h.ne_nil
  obtain ⟨⟨hend, hspace, -⟩, hplain⟩ := List.forall_mem_cons.mp h.plain
  have hstep : (Mode.between t).step c = (none, .attributeName t [c]) := by
    simp [Mode.step, hend, hspace]
  rw [read_cons_of_step hstep, read_attributeName hplain]
  rfl

theorem IsAttribute.read_text (h : IsAttribute name value) (hm : AtGap t m) :
    read m (attributeText (name, value)) = ([], .between (t.with name value)) := by
  have hequals : (Mode.attributeName t name).step '=' = (none, .equals t name) := rfl
  have hopen : (Mode.equals t name).step '"' = (none, .quoted t name []) := rfl
  have hclose : (Mode.quoted t name value).step '"' = (none, .between (t.with name value)) := rfl
  rw [attributeText, read_cons_of_step hm.step_space, read_append_of_eq (h.read_name t),
    read_cons_of_step hequals, read_cons_of_step hopen,
    read_append_of_eq (read_quoted h.closed t name []), List.nil_append, read_cons_of_step hclose]
  rfl

theorem read_attributes (h : ∀ a ∈ attributes, IsAttribute a.1 a.2) (hm : AtGap t m) :
    ∃ m', read m (attributes.flatMap attributeText) = ([], m') ∧
      AtGap { t with attributes := t.attributes ++ attributes } m' := by
  induction attributes generalizing t m with
  | nil => exact ⟨m, rfl, by simpa using hm⟩
  | cons a attributes ih =>
    obtain ⟨ha, h⟩ := List.forall_mem_cons.mp h
    obtain ⟨m', hread, hm'⟩ := ih h (.between (t := t.with a.1 a.2))
    refine ⟨m', ?_, by simpa [Tag.with] using hm'⟩
    rw [List.flatMap_cons, read_append_of_eq (ha.read_text hm), hread]

def openingText (name : Text) (attributes : List (Text × Text)) : Text :=
  '<' :: (name ++ (attributes.flatMap attributeText ++ ['>']))

def closingText (name : Text) : Text := '<' :: '/' :: (name ++ ['>'])

theorem step_start : Mode.outside.step '<' = (none, .tagName {}) := rfl

theorem read_openingText (hname : IsPlainName name)
    (h : ∀ a ∈ attributes, IsAttribute a.1 a.2) :
    read .outside (openingText name attributes) = ([.tag { name, attributes }], .outside) := by
  have htag : read (.tagName {}) name = ([], .tagName { name }) := read_tagName hname {}
  obtain ⟨m, hread, hm⟩ := read_attributes h (.tagName (t := { name }))
  rw [openingText, read_cons_of_step step_start, read_append_of_eq htag, read_append_of_eq hread,
    read, hm.step_end]
  rfl

theorem read_closingText (hname : IsPlainName name) :
    read .outside (closingText name) = ([.tag { closing := true, name }], .outside) := by
  have hslash : (Mode.tagName {}).step '/' = (none, .tagName { closing := true }) := rfl
  rw [closingText, read_cons_of_step step_start, read_cons_of_step hslash,
    read_append_of_eq (read_tagName hname _)]
  rfl

end ForumClient.Markup
