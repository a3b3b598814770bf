import GatewayAdmission.Field.Error
import GatewayAdmission.Proofs.Field.Steps
import GatewayAdmission.Proofs.Occurrence
import GatewayAdmission.Proofs.Text.Line

/-!
# Errors on one line

A value that was found in an object goes into the text of an error as JSON, where line breaks are
escaped. So **the text of an error is on one line if its path and its message are**
(`FieldError.Tidy.oneLine_text`), whatever the value is, and errors put on lines of their own can
be told apart (`FieldError.splitOn_aggregate`).

A path in words is on one line. `FieldError.AllClear` says of all errors of a check that their
paths are in words and their messages on one line, so that they are all tidy. It has one lemma for
each way in which checks are put together: one after the other, for all entries of a list, or under
a condition.
-/

namespace GatewayAdmission

open Text (OneLine)

/-! ## Paths -/

/-- A path in words is on one line. -/
theorem FieldPath.InWords.oneLine_text {p : FieldPath} (h : p.InWords) : OneLine p.text := by
  have hne : p.root ≠ "" := by rw [h.root]; decide
  rw [OneLine, toList_text hne, List.mem_append, List.mem_flatMap, h.root]
  rintro (hroot | ⟨s, hs, hpiece⟩)
  · exact absurd hroot (by decide)
  · cases s with
    | child name =>
      rcases List.mem_cons.1 hpiece with hpoint | hname
      · exact absurd hpoint (by decide)
      · exact (h.names name hs).ne hname rfl rfl
    | index i =>
      have hnumber : '\n' ∈ Nat.toDigits 10 i := by simpa [PathStep.chars] using hpiece
      exact absurd ((Text.digits_toDigits i).2 _ hnumber) (by decide)

/-! ## Single errors -/

namespace FieldError

/-- Whether the path and the message of an error are each on one line. -/
structure Tidy (e : FieldError) : Prop where
  path : OneLine e.path.text
  message : OneLine e.fault.message

theorem oneLine_heading (fault : FieldFault) : OneLine fault.heading := by
  cases fault <;> exact Text.oneLine_ofList rfl

/-- **No value that was found breaks the line of an error.** -/
theorem Tidy.oneLine_text {e : FieldError} (h : e.Tidy) : OneLine e.text := by
  have hcolon : OneLine ": " := Text.oneLine_ofList rfl
  have hempty : OneLine "" := Text.oneLine_ofList rfl
  have hmessage : OneLine (if e.fault.message.isEmpty then "" else ": " ++ e.fault.message) := by
    split
    · exact hempty
    · exact hcolon.append h.message
  have hheading := (h.path.append hcolon).append (oneLine_heading e.fault)
  refine OneLine.append (OneLine.append hheading ?_) hmessage
  split
  · exact hcolon.append (Json.oneLine_render _)
  · exact hempty

/-- Whether the path of an error is in words and its message on one line. -/
structure Clear (e : FieldError) : Prop where
  path : e.path.InWords
  message : OneLine e.fault.message

theorem Clear.tidy {e : FieldError} (h : e.Clear) : e.Tidy := ⟨h.path.oneLine_text, h.message⟩

/-! ## All errors of a check -/

/-- Whether all errors are tidy. -/
def AllTidy (errors : List FieldError) : Prop := ∀ e ∈ errors, e.Tidy

/-- Whether all errors are clear. -/
def AllClear (errors : List FieldError) : Prop := ∀ e ∈ errors, e.Clear

theorem AllClear.tidy {errors : List FieldError} (h : AllClear errors) : AllTidy errors :=
  fun e he => (h e he).tidy

section

variable {path : FieldPath}

theorem allClear_nil : AllClear [] := fun _ h => absurd h (by simp)

theorem allClear_singleton {e : FieldError} (h : e.Clear) : AllClear [e] :=
  List.forall_mem_singleton.2 h

theorem allClear_invalid (hpath : path.InWords) (value : Json) {message : String}
    (hmessage : OneLine message) : AllClear [.invalid path value message] :=
  allClear_singleton ⟨hpath, hmessage⟩

theorem allClear_required (hpath : path.InWords) {message : String} (hmessage : OneLine message) :
    AllClear [.required path message] :=
  allClear_singleton ⟨hpath, hmessage⟩

theorem allClear_forbidden (hpath : path.InWords) {message : String}
    (hmessage : OneLine message) : AllClear [.forbidden path message] :=
  allClear_singleton ⟨hpath, hmessage⟩

theorem clear_duplicate (hpath : path.InWords) (value : Json) :
    (FieldError.duplicate path value).Clear :=
  ⟨hpath, Text.oneLine_ofList rfl⟩

theorem clear_notSupported (hpath : path.InWords) (value : Json) (supported : List String) :
    (FieldError.notSupported path value supported).Clear := by
  refine ⟨hpath, ?_⟩
  show OneLine (if supported.isEmpty then "" else _)
  split
  · exact Text.oneLine_ofList rfl
  · refine OneLine.append (Text.oneLine_ofList rfl)
      (Text.oneLine_intercalate (Text.oneLine_ofList rfl) fun s hs => ?_)
    obtain ⟨t, -, rfl⟩ := List.mem_map.1 hs
    exact Text.oneLine_quoted t

theorem AllClear.append {es fs : List FieldError} (hes : AllClear es) (hfs : AllClear fs) :
    AllClear (es ++ fs) :=
  List.forall_mem_append.2 ⟨hes, hfs⟩

theorem allClear_ite {c : Prop} [Decidable c] {es fs : List FieldError} (hes : c → AllClear es)
    (hfs : ¬c → AllClear fs) : AllClear (if c then es else fs) := by
  split
  · exact hes ‹_›
  · exact hfs ‹_›

/-- Errors that are there under a condition. -/
theorem allClear_if {c : Prop} [Decidable c] {es : List FieldError} (hes : c → AllClear es) :
    AllClear (if c then es else []) :=
  allClear_ite hes fun _ => allClear_nil

theorem allClear_map {α : Type} {f : α → FieldError} {as : List α} (h : ∀ a ∈ as, (f a).Clear) :
    AllClear (as.map f) :=
  List.forall_mem_map.2 h

theorem allClear_flatMap {α : Type} {f : α → List FieldError} {as : List α}
    (h : ∀ a ∈ as, AllClear (f a)) : AllClear (as.flatMap f) := by
  intro e he
  obtain ⟨a, ha, he⟩ := List.mem_flatMap.1 he
  exact h a ha e he

/-- A check of single entries, on all entries of a list. -/
theorem allClear_entries {α : Type} {rule : FieldPath → α → List FieldError}
    (hpath : path.InWords) (h : ∀ path a, path.InWords → AllClear (rule path a)) (as : List α) :
    AllClear ((path.entries as).flatMap fun (path, a) => rule path a) := by
  refine allClear_flatMap fun x hx => ?_
  obtain ⟨⟨a, i⟩, -, rfl⟩ := List.mem_map.1 hx
  exact h _ a (FieldPath.inWords_index hpath i)

/-- An error at entries that are the second of their key. -/
theorem allClear_secondOccurrences {α κ : Type} [BEq κ] {key : α → κ} {as : List α}
    {f : α → FieldError} (h : ∀ a ∈ as, (f a).Clear) :
    AllClear ((secondOccurrences key as).map f) :=
  allClear_map fun a ha => h a (mem_of_mem_secondOccurrences ha)

end

/-- **Errors on lines of their own are told apart by the line breaks.** -/
theorem splitOn_aggregate {errors : List FieldError} (hne : errors ≠ []) (h : AllTidy errors) :
    (aggregate errors).toList.splitOn '\n' = errors.map (·.text.toList) := by
  have hlines : ∀ s ∈ errors.map text, OneLine s := List.forall_mem_map.2 fun e he =>
    (h e he).oneLine_text
  rw [aggregate, Text.splitOn_lines (by simpa using hne) hlines, List.map_map]
  rfl

end FieldError

end GatewayAdmission
