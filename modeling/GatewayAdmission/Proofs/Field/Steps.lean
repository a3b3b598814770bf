import GatewayAdmission.Field.Path
import GatewayAdmission.Proofs.Json.Numeral
import GatewayAdmission.Proofs.Text.Segments

/-!
# Steps in the text of a path

The text of a path is its root and then a piece for each step (`FieldPath.toList_text`): a name
behind a point, or a number in brackets. A number ends at its bracket. A name ends where the next
piece starts, if there is no point and no bracket in the name itself (`PathStep.Legible`). So
**steps are read off the text of a path in one way only** (`FieldPath.walk_inj_of_text`).

Words of ASCII letters are such names. `FieldPath.InWords` says of a path in the spec of an object
that it has no others.
-/

namespace GatewayAdmission

/-! ## Pieces -/

namespace PathStep

variable {s s' : PathStep} {steps steps' : List PathStep} {rest rest' : List Char}

/-- The piece that a step is written as behind a text. -/
def chars : PathStep → List Char
  | .child name => '.' :: name.toList
  | .index i => '[' :: (Nat.toDigits 10 i ++ [']'])

/-- Whether it can be told where a step ends: a name is not empty and has no point and no bracket
in it. A number may be any. -/
def Legible : PathStep → Prop
  | .child name => name ≠ "" ∧ ∀ c ∈ name.toList, c ≠ '.' ∧ c ≠ '[' ∧ c ≠ ']'
  | .index _ => True

instance : DecidablePred Legible
  | .child name =>
    inferInstanceAs (Decidable (name ≠ "" ∧ ∀ c ∈ name.toList, c ≠ '.' ∧ c ≠ '[' ∧ c ≠ ']'))
  | .index _ => inferInstanceAs (Decidable True)

/-- Whether the piece of a step starts with this character. -/
def opens (c : Char) : Bool := c == '.' || c == '['

/-- Whether a text goes on with a step, or ends. -/
def GoesOn (cs : List Char) : Prop := ∀ c ∈ cs.head?, opens c = true

theorem goesOn_chars_append (s : PathStep) (rest : List Char) : GoesOn (s.chars ++ rest) := by
  intro c hc
  cases s with
  | child name => obtain rfl := Option.some.inj hc; rfl
  | index i => obtain rfl := Option.some.inj hc; rfl

theorem goesOn_flatMap_chars (steps : List PathStep) : GoesOn (steps.flatMap chars) := by
  cases steps with
  | nil => exact fun c hc => absurd hc (by simp)
  | cons s steps => exact goesOn_chars_append s _

/-- A name ends where the text goes on with another step. -/
theorem name_append_inj {name name' : String} (h : (child name).Legible)
    (h' : (child name').Legible) (hrest : GoesOn rest) (hrest' : GoesOn rest')
    (heq : name.toList ++ rest = name'.toList ++ rest') : name = name' ∧ rest = rest' := by
  have hname : ∀ {n : String}, (child n).Legible → ∀ c ∈ n.toList, (!opens c) = true := by
    intro n hn c hc
    obtain ⟨hpoint, hbracket, -⟩ := hn.2 c hc
    simp [opens, hpoint, hbracket]
  have hbreak : ∀ {cs}, GoesOn cs → ∀ c ∈ cs.head?, (!opens c) = false := by
    intro cs hcs c hc
    rw [hcs c hc, Bool.not_true]
  obtain ⟨hsame, hrest⟩ := Text.append_inj_of_break (hname h) (hname h') (hbreak hrest)
    (hbreak hrest') heq
  exact ⟨String.toList_inj.1 hsame, hrest⟩

/-- A number ends at its bracket. -/
theorem number_append_inj {i j : Nat}
    (h : Nat.toDigits 10 i ++ ']' :: rest = Nat.toDigits 10 j ++ ']' :: rest') :
    i = j ∧ rest = rest' := by
  have hbreak : ∀ cs : List Char, ∀ c ∈ (']' :: cs).head?, c.isDigit = false := by
    intro cs c hc
    obtain rfl := Option.some.inj hc
    decide
  obtain ⟨hdigits, hrest⟩ := Text.append_inj_of_break (Text.digits_toDigits i).2
    (Text.digits_toDigits j).2 (hbreak rest) (hbreak rest') h
  exact ⟨Text.toDigits_injective hdigits, (List.cons.inj hrest).2⟩

/-- **A step is told apart from the steps behind it.** -/
theorem chars_append_inj (hs : s.Legible) (hs' : s'.Legible) (hrest : GoesOn rest)
    (hrest' : GoesOn rest') (h : s.chars ++ rest = s'.chars ++ rest') : s = s' ∧ rest = rest' := by
  cases s with
  | child name =>
    cases s' with
    | child name' =>
      obtain ⟨rfl, hrest⟩ := name_append_inj hs hs' hrest hrest' (List.cons.inj h).2
      exact ⟨rfl, hrest⟩
    | index j => exact absurd (List.cons.inj h).1 (by decide)
  | index i =>
    cases s' with
    | child name' => exact absurd (List.cons.inj h).1 (by decide)
    | index j =>
      have hbody : Nat.toDigits 10 i ++ ']' :: rest = Nat.toDigits 10 j ++ ']' :: rest' := by
        simpa [chars] using h
      obtain ⟨rfl, hrest⟩ := number_append_inj hbody
      exact ⟨rfl, hrest⟩

/-- Steps written one behind the other are told apart. -/
theorem flatMap_chars_inj (h : ∀ s ∈ steps, s.Legible) (h' : ∀ s ∈ steps', s.Legible)
    (heq : steps.flatMap chars = steps'.flatMap chars) : steps = steps' := by
  induction steps generalizing steps' with
  | nil =>
    cases steps' with
    | nil => rfl
    | cons s' steps' => cases s' <;> exact absurd heq (by simp [chars])
  | cons s steps ih =>
    cases steps' with
    | nil => cases s <;> exact absurd heq (by simp [chars])
    | cons s' steps' =>
      rw [List.forall_mem_cons] at h h'
      rw [List.flatMap_cons, List.flatMap_cons] at heq
      obtain ⟨rfl, hrest⟩ := chars_append_inj h.1 h'.1 (goesOn_flatMap_chars steps)
        (goesOn_flatMap_chars steps') heq
      rw [ih h.2 h'.2 hrest]

end PathStep

/-! ## Texts -/

namespace FieldPath

variable {p : FieldPath} {steps steps' : List PathStep}

theorem text_child (p : FieldPath) (name : String) :
    (p.child name).text = appendStep p.text (.child name) := by
  rw [text, child, List.foldl_append]
  rfl

theorem text_index (p : FieldPath) (i : Nat) :
    (p.index i).text = appendStep p.text (.index i) := by
  rw [text, index, List.foldl_append]
  rfl

/-- Entries of a list are told apart by their paths. -/
theorem text_index_inj {i j : Nat} (h : (p.index i).text = (p.index j).text) : i = j := by
  rw [text_index, text_index, ← String.toList_inj] at h
  simp only [appendStep, String.toList_append, List.append_assoc, List.append_cancel_left_eq,
    List.append_cancel_right_eq, Nat.toString_eq_ofList_toDigits, String.toList_ofList] at h
  exact Text.toDigits_injective h

theorem text_index_child (p : FieldPath) (i : Nat) (name : String) :
    ((p.index i).child name).text = (p.index i).text ++ "." ++ name := by
  rw [text_child, appendStep, if_neg]
  simp [text_index, appendStep]

/-- Fields that entries of a list have under one name are told apart by their paths as well. -/
theorem text_index_child_inj {i j : Nat} {name : String}
    (h : ((p.index i).child name).text = ((p.index j).child name).text) : i = j := by
  rw [text_index_child, text_index_child, String.append_left_inj, String.append_left_inj] at h
  exact text_index_inj h

/-- The text of an entry, from what stands in front of its number. -/
theorem text_index_eq {front : String} (hfront : p.text ++ "[" = front) (i : Nat) :
    (p.index i).text = front ++ toString i ++ "]" := by
  rw [text_index, appendStep, hfront]

/-- The text of a field of an entry, from what stands around the number of the entry. -/
theorem text_index_child_eq {front back name : String} (hfront : p.text ++ "[" = front)
    (hback : "]." ++ name = back) (i : Nat) :
    ((p.index i).child name).text = front ++ toString i ++ back := by
  have hpoint : "]" ++ "." = "]." := by decide
  rw [text_index_child, text_index_eq hfront, ← hback, ← hpoint]
  simp only [String.append_assoc]

theorem toList_appendStep {t : String} (h : t ≠ "") (s : PathStep) :
    (appendStep t s).toList = t.toList ++ s.chars := by
  cases s with
  | child name =>
    rw [appendStep, if_neg (by simpa using h), String.toList_append, String.toList_append,
      List.append_assoc]
    rfl
  | index i => simp [appendStep, PathStep.chars]

theorem toList_foldl_appendStep {t : String} (h : t ≠ "") (steps : List PathStep) :
    (steps.foldl appendStep t).toList = t.toList ++ steps.flatMap PathStep.chars := by
  induction steps generalizing t with
  | nil => simp
  | cons s steps ih =>
    have hstep := toList_appendStep h s
    have hne : appendStep t s ≠ "" := by
      rw [Ne, ← String.toList_inj, hstep]
      simp [h]
    rw [List.foldl_cons, ih hne, hstep, List.flatMap_cons, List.append_assoc]

/-- **The text of a path is its root and a piece for each step.** -/
theorem toList_text (h : p.root ≠ "") :
    p.text.toList = p.root.toList ++ p.steps.flatMap PathStep.chars :=
  toList_foldl_appendStep h p.steps

/-! ## Walks -/

/-- One step further in. -/
def step (p : FieldPath) : PathStep → FieldPath
  | .child name => p.child name
  | .index i => p.index i

/-- Steps taken one after the other. -/
def walk (p : FieldPath) (steps : List PathStep) : FieldPath := steps.foldl step p

theorem walk_eq (p : FieldPath) (steps : List PathStep) :
    p.walk steps = ⟨p.root, p.steps ++ steps⟩ := by
  induction steps generalizing p with
  | nil => rw [List.append_nil]; rfl
  | cons s steps ih =>
    have hstep : p.step s = ⟨p.root, p.steps ++ [s]⟩ := by cases s <;> rfl
    rw [walk, List.foldl_cons, ← walk, ih, hstep, List.append_assoc, List.singleton_append]

/-- On a walk, the text grows with each step. -/
theorem text_walk (p : FieldPath) (steps : List PathStep) :
    (p.walk steps).text = steps.foldl appendStep p.text := by
  rw [walk_eq, text, List.foldl_append]
  rfl

/-- **Steps are read off the text of a path in one way only.** -/
theorem walk_inj_of_text (hp : p.text ≠ "") (h : ∀ s ∈ steps, s.Legible)
    (h' : ∀ s ∈ steps', s.Legible) (htext : (p.walk steps).text = (p.walk steps').text) :
    steps = steps' := by
  rw [text_walk, text_walk, ← String.toList_inj, toList_foldl_appendStep hp,
    toList_foldl_appendStep hp, List.append_cancel_left_eq] at htext
  exact PathStep.flatMap_chars_inj h h' htext

end FieldPath

/-! ## Words -/

namespace Text

/-- Whether a text is one word of ASCII letters. -/
def IsWord (s : String) : Prop := s ≠ "" ∧ ∀ c ∈ s.toList, c.isAlpha = true

/-- A word that is written out can be looked through letter by letter. -/
theorem isWord_ofList {cs : List Char} (h : (!cs.isEmpty && cs.all Char.isAlpha) = true) :
    IsWord (String.ofList cs) := by
  obtain ⟨hne, hall⟩ := Bool.and_eq_true_iff.1 h
  refine ⟨?_, fun c hc => ?_⟩
  · intro hempty
    rw [← String.toList_inj, String.toList_ofList] at hempty
    exact absurd hne (by rw [hempty]; decide)
  · rw [String.toList_ofList] at hc
    exact List.all_eq_true.1 hall c hc

theorem IsWord.ne {s : String} (h : IsWord s) {c d : Char} (hc : c ∈ s.toList)
    (hd : d.isAlpha = false) : c ≠ d := by
  rintro rfl
  exact absurd (h.2 c hc) (by rw [hd]; decide)

end Text

namespace FieldPath

/-- Whether a path starts at `spec` and all names in it are words. -/
structure InWords (p : FieldPath) : Prop where
  root : p.root = "spec"
  names : ∀ name, PathStep.child name ∈ p.steps → Text.IsWord name

variable {p : FieldPath}

theorem inWords_spec : spec.InWords := ⟨rfl, fun _ h => absurd h List.not_mem_nil⟩

theorem inWords_child (h : p.InWords) {name : String} (hname : Text.IsWord name) :
    (p.child name).InWords := by
  refine ⟨h.root, fun other hother => ?_⟩
  rcases List.mem_append.1 hother with hother | hother
  · exact h.names other hother
  · obtain rfl := PathStep.child.inj (List.mem_singleton.1 hother)
    exact hname

/-- A field whose name is written out. -/
theorem inWords_field (h : p.InWords) {cs : List Char}
    (hcs : (!cs.isEmpty && cs.all Char.isAlpha) = true) : (p.child (String.ofList cs)).InWords :=
  inWords_child h (Text.isWord_ofList hcs)

theorem inWords_index (h : p.InWords) (i : Nat) : (p.index i).InWords := by
  refine ⟨h.root, fun name hname => ?_⟩
  rcases List.mem_append.1 hname with hname | hname
  · exact h.names name hname
  · exact absurd (List.mem_singleton.1 hname) (by simp)

/-- The steps of a path in words are legible. -/
theorem InWords.legible (h : p.InWords) : ∀ s ∈ p.steps, s.Legible := by
  intro s hs
  cases s with
  | child name =>
    have hname := h.names name hs
    exact ⟨hname.1, fun c hc => ⟨hname.ne hc rfl, hname.ne hc rfl, hname.ne hc rfl⟩⟩
  | index i => trivial

/-- A path in words is reached from `spec`. -/
theorem InWords.eq_walk (h : p.InWords) : p = spec.walk p.steps := by
  rw [walk_eq, show spec.root = p.root from h.root.symm]
  rfl

end FieldPath

end GatewayAdmission
