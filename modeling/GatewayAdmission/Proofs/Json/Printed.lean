import GatewayAdmission.Json.Document
import GatewayAdmission.Proofs.Json.Numeral
import GatewayAdmission.Proofs.Json.Quoted

/-!
# Reading a printed value

**The compact text of a value is read as the tree of the value** (`Document.parse?_render`). The
tree is `Document.ofPrinted`: that of the value, except that a number is what its text is read
back as. Without doubles the two trees are the same (`Document.ofPrinted_of_isWhole`).

The reader works in two stages and so does the proof. `Json.tokens` are the tokens of the text of a
value. Cutting the text gives exactly these (`Token.listAux?_chars`), whatever has been read before
and whatever follows, and building from these gives the tree (`Document.build?_tokens`).
-/

namespace GatewayAdmission

/-! ## The tokens of a value -/

namespace Json

mutual

/-- The tokens of the compact text. -/
def tokens : Json → List Token
  | .null => [.null]
  | .bool b => [.bool b]
  | .num n => [.num n.reread]
  | .str s => [.str (some s)]
  | .arr items => .openArr :: (itemTokens items ++ [.closeArr])
  | .obj entries => .openObj :: (entryTokens entries ++ [.closeObj])

def itemTokens : List Json → List Token
  | [] => []
  | [j] => j.tokens
  | j :: rest => j.tokens ++ .comma :: itemTokens rest

def entryTokens : List (String × Json) → List Token
  | [] => []
  | [(k, j)] => .str (some k) :: .colon :: j.tokens
  | (k, j) :: rest => .str (some k) :: .colon :: (j.tokens ++ .comma :: entryTokens rest)

end

/-- No value starts with a closing bracket. -/
theorem exists_tokens_eq_cons (j : Json) : ∃ t ts, j.tokens = t :: ts ∧ t ≠ .closeArr := by
  cases j <;> exact ⟨_, _, rfl, by simp⟩

theorem exists_itemTokens (j : Json) (items : List Json) :
    ∃ us, itemTokens (j :: items) = j.tokens ++ us := by
  cases items with
  | nil => exact ⟨[], (List.append_nil _).symm⟩
  | cons k items => exact ⟨.comma :: itemTokens (k :: items), rfl⟩

end Json

namespace Token

open Text Json

/-- Blanks are no tokens. -/
theorem listAux?_of_isBlank {bs : List UInt8} (h : ∀ b ∈ bs, isBlank b = true)
    (done : List Token) : listAux? done bs = some done.reverse := by
  induction bs with
  | nil => rw [listAux?]
  | cons b bs ih =>
    obtain ⟨hb, hbs⟩ := List.forall_mem_cons.1 h
    rw [listAux?, if_pos hb, ih hbs]

theorem listAux?_next {b : UInt8} {tail rest : List UInt8} {t : Token} (hb : isBlank b = false)
    (h : next? b tail = some (t, rest)) (done : List Token) :
    listAux? done (b :: tail) = listAux? (t :: done) rest := by
  rw [listAux?, if_neg (by simp [hb])]
  split
  · rename_i hnone
    exact absurd (h.symm.trans hnone) (by simp)
  · rename_i t' rest' hsome
    obtain ⟨rfl, rfl⟩ := Prod.mk.inj (Option.some.inj (h.symm.trans hsome))
    rfl

/-- Whether characters are one token, whatever follows that breaks a number off. -/
def Reads (cs : List Char) (t : Token) : Prop :=
  ∀ rest, Breaks rest → ∃ b tail, octets cs ++ rest = b :: tail ∧ isBlank b = false
    ∧ next? b tail = some (t, rest)

theorem Reads.listAux? {cs : List Char} {t : Token} (h : Reads cs t) {rest : List UInt8}
    (hr : Breaks rest) (done : List Token) :
    listAux? done (octets cs ++ rest) = Token.listAux? (t :: done) rest := by
  obtain ⟨b, tail, heq, hb, hnext⟩ := h rest hr
  rw [heq, listAux?_next hb hnext]

theorem reads_string (s : String) : Reads (stringChars s) (.str (some s)) := by
  intro rest _
  obtain ⟨tail, heq, hnext⟩ := next?_stringChars s rest
  exact ⟨0x22, tail, heq, by decide, hnext⟩

theorem next?_numeral {b : UInt8} (h : b = 0x2D ∨ isDigit b) (rest : List UInt8) :
    next? b rest = (numeral? (b :: rest)).map fun (x, rest) => (.num x.toNumber?, rest) := by
  have hne : ∀ c : UInt8, ¬ (c = 0x2D ∨ isDigit c) → b ≠ c := fun c hc he => hc (he ▸ h)
  unfold next?
  rw [if_neg (hne _ (by decide)), if_neg (hne _ (by decide)), if_neg (hne _ (by decide)),
    if_neg (hne _ (by decide)), if_neg (hne _ (by decide)), if_neg (hne _ (by decide)),
    if_neg (hne _ (by decide)), if_pos h]

/-- A spelling starts with its sign or a digit. -/
theorem exists_octets_spelling {s : Spelling} (h : s.Valid) :
    ∃ b tail, octets s.chars = b :: tail ∧ (b = 0x2D ∨ isDigit b) := by
  obtain ⟨c, cs, hcs⟩ := List.exists_cons_of_ne_nil h.whole.1
  have hc := h.whole.2 c (by simp [hcs])
  have hlt := toNat_lt_of_isDigit hc
  unfold Spelling.chars Spelling.signChars
  cases s.negative with
  | true => exact ⟨0x2D, _, rfl, Or.inl rfl⟩
  | false =>
    refine ⟨UInt8.ofNat c.toNat, octets (cs ++ (s.fractionChars ++ s.exponentChars)), ?_,
      Or.inr (isDigit_ofNat hc)⟩
    rw [hcs, if_neg Bool.false_ne_true, List.nil_append, List.cons_append,
      octets_cons_ascii (by omega)]

theorem reads_number (n : Number) : Reads (numberChars n) (.num n.reread) := by
  intro rest hr
  obtain ⟨s, hs, hchars⟩ := n.exists_spelling
  obtain ⟨b, tail, heq, hb⟩ := exists_octets_spelling hs
  have hreread : n.reread = s.numeral.toNumber? := by
    have h := numeral?_octets hs breaks_nil
    rw [List.append_nil] at h
    rw [Number.reread, hchars, h, Option.bind_some]
  have hread := numeral?_octets hs hr
  rw [heq, List.cons_append] at hread
  refine ⟨b, tail ++ rest, by rw [hchars, heq, List.cons_append], ?_, ?_⟩
  · have hblank : ∀ c : UInt8, ¬ (c = 0x2D ∨ isDigit c) → (b == c) = false := fun c hc =>
      beq_eq_false_iff_ne.2 fun he => hc (he ▸ hb)
    rw [isBlank, hblank _ (by decide), hblank _ (by decide), hblank _ (by decide),
      hblank _ (by decide)]
    rfl
  · rw [next?_numeral hb, hread, hreread]
    rfl

theorem breaks_cons {b : UInt8} (h : b = 0x2C ∨ b = 0x5D ∨ b = 0x7D ∨ b = 0x3A)
    (rest : List UInt8) : Breaks (b :: rest) := by
  rintro c ⟨rfl⟩
  rcases h with rfl | rfl | rfl | rfl <;> decide

mutual

/-- The text of a value is cut into the tokens of the value. -/
theorem listAux?_chars : (j : Json) → ∀ (done : List Token) {rest : List UInt8}, Breaks rest →
    listAux? done (octets j.chars ++ rest) = listAux? (j.tokens.reverse ++ done) rest
  | .null, done, rest, _ => listAux?_next (by decide) rfl done
  | .bool true, done, rest, _ => listAux?_next (by decide) rfl done
  | .bool false, done, rest, _ => listAux?_next (by decide) rfl done
  | .num n, done, rest, hr => (reads_number n).listAux? hr done
  | .str s, done, rest, hr => (reads_string s).listAux? hr done
  | .arr items, done, rest, hr => by
    rw [chars, octets_cons_ascii (by decide), octets_append, List.cons_append, List.append_assoc,
      listAux?_next (by decide) rfl]
    show Token.listAux? _ (octets (itemChars items) ++ 0x5D :: rest) = _
    rw [listAux?_itemChars items _ (breaks_cons (by decide) _),
      listAux?_next (by decide) rfl]
    simp [tokens]
  | .obj entries, done, rest, hr => by
    rw [chars, octets_cons_ascii (by decide), octets_append, List.cons_append, List.append_assoc,
      listAux?_next (by decide) rfl]
    show Token.listAux? _ (octets (entryChars entries) ++ 0x7D :: rest) = _
    rw [listAux?_entryChars entries _ (breaks_cons (by decide) _),
      listAux?_next (by decide) rfl]
    simp [tokens]

theorem listAux?_itemChars : (items : List Json) → ∀ (done : List Token) {rest : List UInt8},
    Breaks rest →
    listAux? done (octets (itemChars items) ++ rest)
      = listAux? ((itemTokens items).reverse ++ done) rest
  | [], _, _, _ => rfl
  | [j], done, _, hr => listAux?_chars j done hr
  | j :: k :: items, done, rest, hr => by
    rw [itemChars, octets_append, octets_cons_ascii (by decide), List.append_assoc,
      List.cons_append, listAux?_chars j done (breaks_cons (by decide) _),
      listAux?_next (by decide) rfl, listAux?_itemChars (k :: items) _ hr]
    · simp [itemTokens]
    · simp

theorem listAux?_entryChars : (entries : List (String × Json)) → ∀ (done : List Token)
    {rest : List UInt8}, Breaks rest →
    listAux? done (octets (entryChars entries) ++ rest)
      = listAux? ((entryTokens entries).reverse ++ done) rest
  | [], _, _, _ => rfl
  | [(k, j)], done, rest, hr => by
    rw [entryChars, octets_append, octets_cons_ascii (by decide), List.append_assoc,
      List.cons_append, (reads_string k).listAux? (breaks_cons (by decide) _),
      listAux?_next (by decide) rfl, listAux?_chars j _ hr]
    simp [entryTokens]
  | (k, j) :: e :: entries, done, rest, hr => by
    rw [entryChars, octets_append, octets_cons_ascii (by decide), octets_append,
      octets_cons_ascii (by decide), List.append_assoc, List.cons_append, List.append_assoc,
      List.cons_append, (reads_string k).listAux? (breaks_cons (by decide) _),
      listAux?_next (by decide) rfl, listAux?_chars j _ (breaks_cons (by decide) _),
      listAux?_next (by decide) rfl, listAux?_entryChars (e :: entries) _ hr]
    · simp [entryTokens]
    · simp

end

end Token

/-! ## The tree of the tokens -/

namespace Document

open Json

mutual

/-- The tree of the compact text of a value. -/
def ofPrinted : Json → Document
  | .null => .null
  | .bool b => .bool b
  | .num n => .num n.reread
  | .str s => .str (some s)
  | .arr items => .arr (ofPrintedItems items)
  | .obj entries => .obj (ofPrintedEntries entries)

def ofPrintedItems : List Json → List Document
  | [] => []
  | j :: rest => ofPrinted j :: ofPrintedItems rest

def ofPrintedEntries : List (String × Json) → List (Option String × Document)
  | [] => []
  | (k, j) :: rest => (some k, ofPrinted j) :: ofPrintedEntries rest

end

theorem ofPrintedEntries_eq_map (entries : List (String × Json)) :
    ofPrintedEntries entries = entries.map fun e => (some e.1, ofPrinted e.2) := by
  induction entries with
  | nil => rfl
  | cons e rest ih => rw [ofPrintedEntries, ih, List.map_cons]

theorem build?_step {t : Token} {ts : List Token} {place place' : Place} {stack stack' : List Frame}
    (h : step? t place stack = some (place', stack')) :
    build? (t :: ts) place stack = build? ts place' stack' := by
  rw [build?, h]

/-- Where an array may close, the first item opens it just as well. -/
theorem build?_itemOrClose (j : Json) (items : List Json) (ts : List Token)
    (stack : List Frame) :
    build? (itemTokens (j :: items) ++ ts) .itemOrClose stack
      = build? (itemTokens (j :: items) ++ ts) .value (.arr [] :: stack) := by
  obtain ⟨us, hitems⟩ := exists_itemTokens j items
  obtain ⟨t, vs, htokens, hne⟩ := exists_tokens_eq_cons j
  rw [hitems, htokens, List.cons_append, List.cons_append, build?, build?, step?, step?,
    if_neg hne]

/-- Where an object may close, the key of the first entry is read as any other. -/
theorem build?_keyOrClose (e : String × Json) (entries : List (String × Json))
    (done : List (Option String × Document)) (ts : List Token) (stack : List Frame) :
    build? (entryTokens (e :: entries) ++ ts) (.keyOrClose done) stack
      = build? (entryTokens (e :: entries) ++ ts) (.key done) stack := by
  cases entries <;> rfl

mutual

/-- The tokens of a value are built into its tree. -/
theorem build?_tokens : (j : Json) → ∀ (ts : List Token) (stack : List Frame),
    build? (j.tokens ++ ts) .value stack = build? ts (.after (ofPrinted j)) stack
  | .null, _, _ => build?_step rfl
  | .bool _, _, _ => build?_step rfl
  | .num _, _, _ => build?_step rfl
  | .str _, _, _ => build?_step rfl
  | .arr [], ts, stack => by
    rw [tokens, itemTokens, List.cons_append, build?_step rfl]
    exact build?_step rfl
  | .arr (j :: items), ts, stack => by
    rw [tokens, List.cons_append, build?_step rfl, List.append_assoc, List.singleton_append,
      build?_itemOrClose, build?_itemTokens (j :: items) (List.cons_ne_nil _ _)]
    simp [ofPrinted]
  | .obj [], ts, stack => by
    rw [tokens, entryTokens, List.cons_append, build?_step rfl]
    exact build?_step rfl
  | .obj (e :: entries), ts, stack => by
    rw [tokens, List.cons_append, build?_step rfl, List.append_assoc, List.singleton_append,
      build?_keyOrClose, build?_entryTokens (e :: entries) (List.cons_ne_nil _ _)]
    simp [ofPrinted]

/-- The tokens of items, after those that are done. -/
theorem build?_itemTokens : (items : List Json) → items ≠ [] → ∀ (done : List Document)
    (ts : List Token) (stack : List Frame),
    build? (itemTokens items ++ .closeArr :: ts) .value (.arr done :: stack)
      = build? ts (.after (.arr (done.reverse ++ ofPrintedItems items))) stack
  | [], h, _, _, _ => absurd rfl h
  | [j], _, done, ts, stack => by
    rw [itemTokens, build?_tokens j, build?_step rfl]
    simp [ofPrintedItems]
  | j :: k :: items, _, done, ts, stack => by
    rw [itemTokens, List.append_assoc, build?_tokens j, List.cons_append, build?_step rfl,
      build?_itemTokens (k :: items) (List.cons_ne_nil _ _)]
    · simp [ofPrintedItems]
    · simp

/-- The tokens of entries, after those that are done. -/
theorem build?_entryTokens : (entries : List (String × Json)) → entries ≠ [] →
    ∀ (done : List (Option String × Document)) (ts : List Token) (stack : List Frame),
    build? (entryTokens entries ++ .closeObj :: ts) (.key done) stack
      = build? ts (.after (.obj (done.reverse ++ ofPrintedEntries entries))) stack
  | [], h, _, _, _ => absurd rfl h
  | [(k, j)], _, done, ts, stack => by
    rw [entryTokens, List.cons_append, List.cons_append, build?_step rfl, build?_step rfl,
      build?_tokens j, build?_step rfl]
    simp [ofPrintedEntries]
  | (k, j) :: e :: entries, _, done, ts, stack => by
    rw [entryTokens, List.cons_append, List.cons_append, build?_step rfl, build?_step rfl,
      List.append_assoc, build?_tokens j, List.cons_append, build?_step rfl,
      build?_entryTokens (e :: entries) (List.cons_ne_nil _ _)]
    · simp [ofPrintedEntries]
    · simp

end

/-- **The compact text of a value is read as the tree of the value.** -/
theorem parse?_render (j : Json) :
    parse? (Text.octets j.render.toList) = some (ofPrinted j) := by
  have htokens := Token.listAux?_chars j [] Token.breaks_nil
  have hbuild := build?_tokens j [] []
  rw [List.append_nil] at htokens hbuild
  rw [parse?, render, String.toList_ofList, Token.list?, htokens, List.append_nil, Token.listAux?,
    List.reverse_reverse, Option.bind_some, hbuild]
  rfl

mutual

/-- Without doubles, nothing changes on the way. -/
theorem ofPrinted_of_isWhole : (j : Json) → j.isWhole = true → ofPrinted j = ofJson j
  | .null, _ => rfl
  | .bool _, _ => rfl
  | .num (.whole n), _ => by rw [ofPrinted, Number.reread_whole, ofJson]
  | .str _, _ => rfl
  | .arr items, h => by rw [ofPrinted, ofPrintedItems_of_isWhole items h, ofJson]
  | .obj entries, h => by rw [ofPrinted, ofPrintedEntries_of_isWhole entries h, ofJson]

theorem ofPrintedItems_of_isWhole : (items : List Json) → isWholeItems items = true →
    ofPrintedItems items = ofItems items
  | [], _ => rfl
  | j :: rest, h => by
    rw [isWholeItems, Bool.and_eq_true] at h
    rw [ofPrintedItems, ofPrinted_of_isWhole j h.1, ofPrintedItems_of_isWhole rest h.2, ofItems]

theorem ofPrintedEntries_of_isWhole : (entries : List (String × Json)) →
    isWholeEntries entries = true → ofPrintedEntries entries = ofEntries entries
  | [], _ => rfl
  | (k, j) :: rest, h => by
    rw [isWholeEntries, Bool.and_eq_true] at h
    rw [ofPrintedEntries, ofPrinted_of_isWhole j h.1, ofPrintedEntries_of_isWhole rest h.2,
      ofEntries]

end

end Document

end GatewayAdmission
