import GatewayAdmission.Dns.Name
import GatewayAdmission.Proofs.Json.Numeral
import GatewayAdmission.Proofs.Text.Segments

/-!
# The literals of IP addresses

What a literal is, said without a reader: four numbers with points between them
(`IpAddress.IsV4`), or groups of hexadecimal digits with colons between them, eight or fewer with
one gap (`IpAddress.IsV6`). **A text is read as an address exactly if it is one of these**
(`IpAddress.isIpLiteral_iff`).

The reader breaks a text at its first two colons in a row. A group is never empty, so in a literal
this place is the gap (`IpAddress.Groups.pair_not_infix`), and without a gap there is none.
-/

namespace GatewayAdmission

namespace IpAddress

/-! ## What is expected -/

/-- The decimal text of a number of eight bits. -/
def IsOctet (w : List Char) : Prop := ∃ n ≤ 255, w = Nat.toDigits 10 n

/-- Four octets with points between them. -/
def IsV4 (w : List Char) : Prop :=
  ∃ parts, parts.length = 4 ∧ (∀ p ∈ parts, IsOctet p) ∧ w = ['.'].intercalate parts

def IsHexDigit (c : Char) : Prop :=
  c.isDigit = true ∨ ('a' ≤ c ∧ c ≤ 'f') ∨ ('A' ≤ c ∧ c ≤ 'F')

/-- What a group has to be like: one to four hexadecimal digits. -/
structure IsGroup (w : List Char) : Prop where
  nonempty : w ≠ []
  short : w.length ≤ 4
  digits : ∀ c ∈ w, IsHexDigit c

/-- Whether parts stand for `n` groups. If `mixed`, the last may be an IPv4 literal, which stands
for two. -/
inductive Groups (mixed : Bool) : Nat → List (List Char) → Prop
  | nil : Groups mixed 0 []
  | group {n : Nat} {p : List Char} {parts : List (List Char)} (hp : IsGroup p)
      (hparts : Groups mixed n parts) : Groups mixed (n + 1) (p :: parts)
  | embedded {p : List Char} (hmixed : mixed = true) (hp : IsV4 p) : Groups mixed 2 [p]

/-- Eight groups with colons between them, or at most seven with two colons at a place where there
are no others. -/
inductive IsV6 : List Char → Prop
  | full {parts : List (List Char)} (h : Groups true 8 parts) : IsV6 ([':'].intercalate parts)
  | gap {m n : Nat} {before after : List (List Char)} (hbefore : Groups false m before)
      (hafter : Groups true n after) (hshort : m + n ≤ 7) :
    IsV6 ([':'].intercalate before ++ ':' :: ':' :: [':'].intercalate after)

/-- Whether a text is an IP literal. -/
def IsLiteral (w : List Char) : Prop := IsV4 w ∨ IsV6 w

/-! ## IPv4 -/

theorem toDigits_of_isDigit {c : Char} (h : c.isDigit = true) :
    Nat.toDigits 10 (c.toNat - 48) = [c] := by
  have hc := Text.toNat_lt_of_isDigit h
  have hchar : Nat.digitChar (c.toNat - 48) = c := by
    apply Char.toNat_inj.1
    rw [Nat.toNat_digitChar_of_lt_ten (by omega)]
    omega
  rw [Nat.toDigits_of_lt_base (by omega), hchar]

theorem eq_of_decimal?_singleton {c : Char} {n : Nat} (h : Text.decimal? [c] = some n) :
    c.isDigit = true ∧ n = c.toNat - 48 := by
  obtain ⟨⟨-, hc⟩, hvalue⟩ := Option.ite_none_right_eq_some.1 h
  exact ⟨by simpa using hc, by simpa using (Option.some.inj hvalue).symm⟩

/-- The last of several digits stands for the units. -/
theorem exists_of_decimal?_append {ds : List Char} {c : Char} {n : Nat} (hne : ds ≠ [])
    (h : Text.decimal? (ds ++ [c]) = some n) :
    ∃ m, Text.decimal? ds = some m ∧ c.isDigit = true ∧ n = 10 * m + (c.toNat - 48) := by
  obtain ⟨⟨-, hdigits⟩, hvalue⟩ := Option.ite_none_right_eq_some.1 h
  rw [List.all_append, Bool.and_eq_true] at hdigits
  rw [List.foldl_append, List.foldl_cons, List.foldl_nil, Nat.mul_comm] at hvalue
  refine ⟨_, ?_, by simpa using hdigits.2, (Option.some.inj hvalue).symm⟩
  rw [Text.decimal?, if_pos ⟨hne, hdigits.1⟩]

/-- Digits without a zero in front are those of the number that they stand for. -/
theorem toDigits_of_decimal? {cs : List Char} {n : Nat} (h : Text.decimal? cs = some n)
    (hzero : cs.head? = some '0' → cs.length ≤ 1) : Nat.toDigits 10 n = cs := by
  induction cs using List.reverseRecOn generalizing n with
  | nil => exact absurd h (by simp [Text.decimal?])
  | append_singleton ds c ih =>
    rcases eq_or_ne ds [] with rfl | hne
    · obtain ⟨hc, rfl⟩ := eq_of_decimal?_singleton h
      exact toDigits_of_isDigit hc
    · obtain ⟨m, hm, hc, rfl⟩ := exists_of_decimal?_append hne h
      have hstart : ds.head? ≠ some '0' := by
        intro hhead
        have hlong := hzero (by rw [List.head?_append, hhead]; rfl)
        rw [List.length_append, List.length_singleton] at hlong
        exact hne (List.length_eq_zero_iff.1 (by omega))
      have hds : Nat.toDigits 10 m = ds := ih hm fun hhead => absurd hhead hstart
      have hpos : 0 < m := by
        rw [Nat.pos_iff_ne_zero]
        rintro rfl
        exact hstart (by rw [← hds]; rfl)
      have hlast := Text.toNat_lt_of_isDigit hc
      rw [← Nat.toDigits_append_toDigits (by decide) hpos (by omega), hds, toDigits_of_isDigit hc]

theorem decimal?_toDigits (n : Nat) : Text.decimal? (Nat.toDigits 10 n) = some n := by
  have hdigits := Text.digits_toDigits n
  have hvalue := Numeral.foldl_digitValues n
  rw [Text.digitValues, List.foldl_map] at hvalue
  rw [Text.decimal?, if_pos ⟨hdigits.1, by simpa using hdigits.2⟩]
  exact congrArg some hvalue

theorem IsOctet.length_le {w : List Char} (h : IsOctet w) : w.length ≤ 3 := by
  obtain ⟨n, hn, rfl⟩ := h
  exact (Nat.length_toDigits_le_iff (by decide) (by decide)).2 (by omega)

theorem IsOctet.digits {w : List Char} (h : IsOctet w) : Text.Digits w := by
  obtain ⟨n, -, rfl⟩ := h
  exact Text.digits_toDigits n

theorem isSome_octet? {cs : List Char} : (octet? cs).isSome = true ↔ IsOctet cs := by
  unfold octet?
  constructor
  · intro h
    split at h
    · exact absurd h (by simp)
    · rename_i hform
      cases hread : Text.decimal? cs with
      | none => simp [hread] at h
      | some n =>
        have hn : n ≤ 255 := by
          by_contra hlarge
          simp [hread, hlarge] at h
        refine ⟨n, hn, (toDigits_of_decimal? hread fun hhead => ?_).symm⟩
        by_contra hlong
        exact hform (Or.inr ⟨by omega, hhead⟩)
  · intro h
    have hshort := h.length_le
    obtain ⟨n, hn, rfl⟩ := h
    have hform : ¬ (3 < (Nat.toDigits 10 n).length
        ∨ (1 < (Nat.toDigits 10 n).length ∧ (Nat.toDigits 10 n).head? = some '0')) := by
      rintro (hlong | ⟨hlong, hhead⟩)
      · omega
      · have hzero : n = 0 := not_not.1 fun hne => Text.head?_toDigits hne hhead
        rw [hzero, Nat.toDigits_zero] at hlong
        exact absurd hlong (by decide)
    rw [if_neg hform, decimal?_toDigits, Option.bind_some, if_pos hn]
    rfl

theorem isSome_mapM {α β : Type} {f : α → Option β} {as : List α} :
    (as.mapM f).isSome = true ↔ ∀ a ∈ as, (f a).isSome = true := by
  induction as with
  | nil => simp
  | cons a as ih =>
    rw [List.forall_mem_cons, ← ih, List.mapM_cons]
    cases f a <;> cases as.mapM f <;> simp

theorem length_of_mapM {α β : Type} {f : α → Option β} {as : List α} {bs : List β}
    (h : as.mapM f = some bs) : bs.length = as.length := by
  induction as generalizing bs with
  | nil =>
    obtain rfl : [] = bs := Option.some.inj h
    rfl
  | cons a as ih =>
    rw [List.mapM_cons] at h
    obtain ⟨b, -, h⟩ := Option.bind_eq_some_iff.1 h
    obtain ⟨bs', hrest, h⟩ := Option.bind_eq_some_iff.1 h
    obtain rfl : b :: bs' = bs := Option.some.inj h
    exact congrArg (· + 1) (ih hrest)

theorem isSome_exactly? {α : Type} {n : Nat} {values : List α} :
    (exactly? n values).isSome = true ↔ values.length = n := by
  unfold exactly?
  split <;> simp [*]

theorem IsOctet.point_not_mem {w : List Char} (h : IsOctet w) : '.' ∉ w := fun hmem =>
  absurd (h.digits.2 _ hmem) (by decide)

/-- **Octets are read from four of them with points between them, and from nothing else.** -/
theorem isSome_octets? {w : List Char} : (octets? w).isSome = true ↔ IsV4 w := by
  rw [octets?]
  constructor
  · intro h
    obtain ⟨values, hread⟩ := Option.isSome_iff_exists.1 h
    obtain ⟨os, hos, hfour⟩ := Option.bind_eq_some_iff.1 hread
    have hlength := isSome_exactly?.1 (Option.isSome_of_eq_some hfour)
    have hparts := isSome_mapM.1 (Option.isSome_of_eq_some hos)
    refine ⟨Text.splitAt '.' w, ?_, fun p hp => isSome_octet?.1 (hparts p hp),
      Text.intercalate_splitAt.symm⟩
    rw [← length_of_mapM hos, hlength]
  · rintro ⟨parts, hlength, hparts, rfl⟩
    have hne : parts ≠ [] := by
      rintro rfl
      exact absurd hlength (by decide)
    rw [Text.splitAt_intercalate hne fun p hp => (hparts p hp).point_not_mem]
    obtain ⟨os, hos⟩ := Option.isSome_iff_exists.1
      (isSome_mapM.2 fun p hp => isSome_octet?.2 (hparts p hp))
    rw [hos, Option.bind_some, isSome_exactly?, length_of_mapM hos, hlength]

namespace IsV4

variable {w : List Char}

theorem characters (h : IsV4 w) : ∀ c ∈ w, c.isDigit = true ∨ c = '.' := by
  obtain ⟨parts, -, hparts, rfl⟩ := h
  intro c hc
  rcases Segments.mem_intercalate hc with rfl | ⟨p, hp, hc⟩
  · exact Or.inr rfl
  · exact Or.inl ((hparts p hp).digits.2 c hc)

theorem point_mem (h : IsV4 w) : '.' ∈ w := by
  obtain ⟨parts, hlength, -, rfl⟩ := h
  exact Segments.mem_intercalate_of_two_le (by omega)

theorem length_le (h : IsV4 w) : w.length ≤ 16 := by
  obtain ⟨parts, hlength, hparts, rfl⟩ := h
  have hle := @Segments.length_intercalate_le _ '.' _ 3 fun p hp => (hparts p hp).length_le
  rwa [hlength] at hle

end IsV4

/-! ## Groups -/

theorem isSome_hexValue? {c : Char} : (hexValue? c).isSome = true ↔ IsHexDigit c := by
  unfold hexValue? IsHexDigit
  split_ifs <;> simp [*]

theorem isSome_group? {w : List Char} : (group? w).isSome = true ↔ IsGroup w := by
  unfold group?
  by_cases hform : w = [] ∨ 4 < w.length
  · rw [if_pos hform]
    refine iff_of_false (by simp) fun h => ?_
    rcases hform with hempty | hlong
    · exact h.nonempty hempty
    · exact absurd h.short (Nat.not_le.2 hlong)
  · rw [if_neg hform, Option.isSome_map, isSome_mapM]
    rw [not_or, Nat.not_lt] at hform
    simp only [isSome_hexValue?]
    exact ⟨fun h => ⟨hform.1, hform.2, h⟩, fun h => h.digits⟩

theorem IsHexDigit.ne {c d : Char} (hc : IsHexDigit c) (hd : hexValue? d = none) : c ≠ d := by
  rintro rfl
  have hsome := isSome_hexValue?.2 hc
  rw [hd] at hsome
  exact absurd hsome (by decide)

theorem IsGroup.not_mem {w : List Char} (h : IsGroup w) {c : Char} (hc : hexValue? c = none) :
    c ∉ w := fun hmem => (h.digits c hmem).ne hc rfl

theorem IsV4.group?_eq_none {w : List Char} (h : IsV4 w) : group? w = none := by
  rw [← Option.not_isSome_iff_eq_none, isSome_group?]
  exact fun hgroup => hgroup.not_mem (by decide) h.point_mem

/-- The last part is a group or, where this may be, an IPv4 literal. -/
theorem exists_groups?_singleton {mixed : Bool} {n : Nat} {p : List Char} :
    (∃ gs, groups? mixed [p] = some gs ∧ gs.length = n) ↔ Groups mixed n [p] := by
  have hgroup := @isSome_group? p
  have hoctets := @isSome_octets? p
  rw [groups?]
  constructor
  · rintro ⟨gs, hread, rfl⟩
    cases hg : group? p with
    | some g =>
      rw [hg] at hread
      obtain rfl : [g] = gs := Option.some.inj hread
      exact .group (hgroup.1 (by rw [hg]; rfl)) .nil
    | none =>
      rw [hg] at hread
      obtain ⟨hmixed, hread⟩ := Option.ite_none_right_eq_some.1 hread
      obtain ⟨os, hos, rfl⟩ := Option.map_eq_some_iff.1 hread
      exact .embedded hmixed (hoctets.1 (by rw [hos]; rfl))
  · intro h
    cases h with
    | group hp hparts =>
      cases hparts
      obtain ⟨g, hg⟩ := Option.isSome_iff_exists.1 (hgroup.2 hp)
      exact ⟨[g], by rw [hg], rfl⟩
    | embedded hmixed hp =>
      obtain ⟨os, hos⟩ := Option.isSome_iff_exists.1 (hoctets.2 hp)
      refine ⟨groupsOfOctets os, ?_, rfl⟩
      rw [hp.group?_eq_none]
      simp [hmixed, hos]

/-- **Groups are read from the parts that stand for them.** -/
theorem exists_groups? {mixed : Bool} {n : Nat} {parts : List (List Char)} :
    (∃ gs, groups? mixed parts = some gs ∧ gs.length = n) ↔ Groups mixed n parts := by
  induction parts generalizing n with
  | nil =>
    constructor
    · rintro ⟨gs, hread, rfl⟩
      obtain rfl : [] = gs := Option.some.inj hread
      exact .nil
    · intro h
      cases h
      exact ⟨[], rfl, rfl⟩
  | cons p parts ih =>
    cases parts with
    | nil => exact exists_groups?_singleton
    | cons q parts =>
      have hcons : groups? mixed (p :: q :: parts)
          = (group? p).bind fun g => (groups? mixed (q :: parts)).map (g :: ·) := rfl
      rw [hcons]
      constructor
      · rintro ⟨gs, hread, rfl⟩
        obtain ⟨g, hg, hread⟩ := Option.bind_eq_some_iff.1 hread
        obtain ⟨rest, hrest, rfl⟩ := Option.map_eq_some_iff.1 hread
        exact .group (isSome_group?.1 (by rw [hg]; rfl)) (ih.1 ⟨rest, hrest, rfl⟩)
      · intro h
        cases h with
        | group hp hparts =>
          obtain ⟨g, hg⟩ := Option.isSome_iff_exists.1 (isSome_group?.2 hp)
          obtain ⟨rest, hrest, hlength⟩ := ih.2 hparts
          exact ⟨g :: rest, by rw [hg, hrest]; rfl, congrArg (· + 1) hlength⟩

namespace Groups

variable {mixed : Bool} {n : Nat} {parts : List (List Char)}

theorem part (h : Groups mixed n parts) : ∀ p ∈ parts, IsGroup p ∨ IsV4 p := by
  induction h with
  | nil => simp
  | group hp _ ih => exact List.forall_mem_cons.2 ⟨Or.inl hp, ih⟩
  | embedded _ hp => simpa using Or.inr hp

theorem length_le (h : Groups mixed n parts) : parts.length ≤ n := by
  induction h with
  | nil => exact Nat.le_refl 0
  | group _ _ ih => exact Nat.succ_le_succ ih
  | embedded => exact Nat.le_succ 1

theorem characters (h : Groups mixed n parts) :
    ∀ p ∈ parts, ∀ c ∈ p, IsHexDigit c ∨ c = '.' := by
  intro p hp c hc
  rcases h.part p hp with hgroup | hv4
  · exact Or.inl (hgroup.digits c hc)
  · exact (hv4.characters c hc).imp_left Or.inl

theorem colon_not_mem (h : Groups mixed n parts) : ∀ p ∈ parts, ':' ∉ p := by
  intro p hp hmem
  rcases h.characters p hp ':' hmem with hdigit | hpoint
  · exact hdigit.ne (by decide) rfl
  · exact absurd hpoint (by decide)

theorem nil_not_mem (h : Groups mixed n parts) : [] ∉ parts := by
  intro hmem
  rcases h.part [] hmem with hgroup | hv4
  · exact hgroup.nonempty rfl
  · exact absurd hv4.point_mem (by simp)

/-- No text of groups has two colons in a row, not even before another colon. -/
theorem pair_not_infix (h : Groups mixed n parts) :
    ¬ [':', ':'] <:+: [':'].intercalate parts ++ [':'] :=
  Segments.pair_not_infix h.colon_not_mem h.nil_not_mem

theorem length_intercalate_le (h : Groups mixed n parts) :
    ([':'].intercalate parts).length ≤ n * 17 := by
  have hpart : ∀ p ∈ parts, p.length ≤ 16 := by
    intro p hp
    rcases h.part p hp with hgroup | hv4
    · exact hgroup.short.trans (by decide)
    · exact hv4.length_le
  exact (Segments.length_intercalate_le hpart).trans (Nat.mul_le_mul_right 17 h.length_le)

end Groups

/-! ## IPv6 -/

/-- What groups are read from that have colons between them. -/
theorem exists_groups?_splitAt {mixed : Bool} {n : Nat} {w : List Char} :
    (∃ gs, groups? mixed (Text.splitAt ':' w) = some gs ∧ gs.length = n)
      ↔ ∃ parts, parts ≠ [] ∧ Groups mixed n parts ∧ w = [':'].intercalate parts := by
  rw [exists_groups?]
  constructor
  · intro h
    exact ⟨_, Text.splitAt_ne_nil, h, Text.intercalate_splitAt.symm⟩
  · rintro ⟨parts, hne, h, rfl⟩
    rwa [Text.splitAt_intercalate hne h.colon_not_mem]

/-- One side of a gap may have no groups at all. -/
theorem exists_side? {mixed : Bool} {n : Nat} {w : List Char} :
    (∃ gs, side? mixed w = some gs ∧ gs.length = n)
      ↔ ∃ parts, Groups mixed n parts ∧ w = [':'].intercalate parts := by
  rw [side?]
  by_cases hw : w = []
  · rw [if_pos hw]
    constructor
    · rintro ⟨gs, hread, rfl⟩
      obtain rfl : [] = gs := Option.some.inj hread
      exact ⟨[], .nil, hw⟩
    · rintro ⟨parts, h, htext⟩
      cases parts with
      | nil => exact exists_groups?.2 h
      | cons p parts =>
        rw [Segments.intercalate_cons, hw, eq_comm, List.append_eq_nil_iff] at htext
        exact absurd (List.mem_cons.2 (Or.inl htext.1.symm)) h.nil_not_mem
  · rw [if_neg hw, exists_groups?_splitAt]
    constructor
    · rintro ⟨parts, -, h⟩
      exact ⟨parts, h⟩
    · rintro ⟨parts, h, rfl⟩
      refine ⟨parts, ?_, h, rfl⟩
      rintro rfl
      exact hw rfl

/-- What eight groups are read from is an IPv6 literal, with a gap if there are two colons. -/
theorem isV6_of_allGroups? {w : List Char} (h : (allGroups? w).isSome = true) : IsV6 w := by
  obtain ⟨values, hread⟩ := Option.isSome_iff_exists.1 h
  rw [allGroups?] at hread
  cases hbreak : Text.breakAtPair ':' ':' w with
  | none =>
    rw [hbreak] at hread
    obtain ⟨gs, hgs, height⟩ := Option.bind_eq_some_iff.1 hread
    have hlength := isSome_exactly?.1 (Option.isSome_of_eq_some height)
    obtain ⟨parts, -, hparts, rfl⟩ := exists_groups?_splitAt.1 ⟨gs, hgs, hlength⟩
    exact .full hparts
  | some sides =>
    obtain ⟨before, after⟩ := sides
    rw [hbreak] at hread
    obtain ⟨head, hhead, hread⟩ := Option.bind_eq_some_iff.1 hread
    obtain ⟨tail, htail, hread⟩ := Option.bind_eq_some_iff.1 hread
    obtain ⟨hshort, -⟩ := Option.ite_none_right_eq_some.1 hread
    obtain ⟨parts, hparts, rfl⟩ := exists_side?.1 ⟨head, hhead, rfl⟩
    obtain ⟨parts', hparts', rfl⟩ := exists_side?.1 ⟨tail, htail, rfl⟩
    rw [Text.eq_append_of_breakAtPair hbreak]
    exact .gap hparts hparts' hshort

/-- An IPv6 literal breaks at its gap or, without one, nowhere; zeros fill the gap. -/
theorem IsV6.isSome_allGroups? {w : List Char} (h : IsV6 w) : (allGroups? w).isSome = true := by
  rw [allGroups?]
  cases h with
  | @full parts h =>
    have hne : parts ≠ [] := by
      rintro rfl
      cases h
    have hbreak : Text.breakAtPair ':' ':' ([':'].intercalate parts) = none :=
      Text.breakAtPair_eq_none fun hpair =>
        h.pair_not_infix (hpair.trans (List.prefix_append _ _).isInfix)
    obtain ⟨gs, hgs, hlength⟩ := exists_groups?_splitAt.2 ⟨parts, hne, h, rfl⟩
    rw [hbreak]
    show ((groups? true (Text.splitAt ':' _)).bind (exactly? 8)).isSome = true
    rw [hgs, Option.bind_some, isSome_exactly?, hlength]
  | gap hbefore hafter hshort =>
    obtain ⟨head, hhead, hm⟩ := exists_side?.2 ⟨_, hbefore, rfl⟩
    obtain ⟨tail, htail, hn⟩ := exists_side?.2 ⟨_, hafter, rfl⟩
    rw [Text.breakAtPair_append hbefore.pair_not_infix]
    simp only [hhead, htail, Option.bind_some]
    rw [if_pos (by omega), isSome_exactly?]
    simp only [List.length_append, List.length_replicate]
    omega

/-- **Eight groups are read from an IPv6 literal, and from nothing else.** -/
theorem isSome_allGroups? {w : List Char} : (allGroups? w).isSome = true ↔ IsV6 w :=
  ⟨isV6_of_allGroups?, fun h => h.isSome_allGroups?⟩

namespace IsV6

variable {w : List Char}

theorem characters (h : IsV6 w) : ∀ c ∈ w, IsHexDigit c ∨ c = '.' ∨ c = ':' := by
  have hparts : ∀ {mixed n parts}, Groups mixed n parts →
      ∀ c ∈ [':'].intercalate parts, IsHexDigit c ∨ c = '.' ∨ c = ':' := by
    intro mixed n parts hgroups c hc
    rcases Segments.mem_intercalate hc with hcolon | ⟨p, hp, hc⟩
    · exact Or.inr (Or.inr hcolon)
    · exact (hgroups.characters p hp c hc).imp_right Or.inl
  cases h with
  | full h => exact hparts h
  | gap hbefore hafter _ =>
    have hcolon : IsHexDigit ':' ∨ ':' = '.' ∨ ':' = ':' := Or.inr (Or.inr rfl)
    exact List.forall_mem_append.2 ⟨hparts hbefore,
      List.forall_mem_cons.2 ⟨hcolon, List.forall_mem_cons.2 ⟨hcolon, hparts hafter⟩⟩⟩

theorem colon_mem (h : IsV6 w) : ':' ∈ w := by
  cases h with
  | full h =>
    -- An embedded literal stands for no more than two groups, so there are at least seven parts.
    cases h with
    | group hp h =>
      cases h with
      | group hq h => exact Segments.mem_intercalate_of_two_le (by simp)
  | gap => simp

theorem length_le (h : IsV6 w) : w.length ≤ 136 := by
  cases h with
  | full h => exact h.length_intercalate_le
  | gap hbefore hafter hshort =>
    have hleft := hbefore.length_intercalate_le
    have hright := hafter.length_intercalate_le
    simp only [List.length_append, List.length_cons]
    omega

end IsV6

/-! ## Literals of either kind -/

theorem IsHexDigit.toNat_lt {c : Char} (h : IsHexDigit c) : c.toNat < 0x80 := by
  have hle : ∀ d : Char, c ≤ d → d.toNat < 0x80 → c.toNat < 0x80 := fun d hcd hd =>
    Nat.lt_of_le_of_lt hcd hd
  rcases h with hdigit | hlower | hupper
  · exact Nat.lt_of_le_of_lt (Text.toNat_lt_of_isDigit hdigit).2 (by decide)
  · exact hle _ hlower.2 (by decide)
  · exact hle _ hupper.2 (by decide)

namespace IsLiteral

variable {w : List Char}

theorem characters (h : IsLiteral w) : ∀ c ∈ w, IsHexDigit c ∨ c = '.' ∨ c = ':' := by
  intro c hc
  rcases h with hv4 | hv6
  · exact (hv4.characters c hc).imp Or.inl Or.inl
  · exact hv6.characters c hc

theorem nonempty (h : IsLiteral w) : w ≠ [] := by
  rintro rfl
  rcases h with hv4 | hv6
  · exact absurd hv4.point_mem (by simp)
  · exact absurd hv6.colon_mem (by simp)

/-- A literal has no star in it. -/
theorem star_not_mem (h : IsLiteral w) : '*' ∉ w := by
  intro hstar
  rcases h.characters '*' hstar with hdigit | hpoint | hcolon
  · exact hdigit.ne (by decide) rfl
  · exact absurd hpoint (by decide)
  · exact absurd hcolon (by decide)

/-- A literal is shorter than a name may be. -/
theorem utf8ByteSize_le {s : String} (h : IsLiteral s.toList) : s.utf8ByteSize ≤ 253 := by
  have hascii : ∀ c ∈ s.toList, c.toNat < 0x80 := by
    intro c hc
    rcases h.characters c hc with hdigit | rfl | rfl
    · exact hdigit.toNat_lt
    · decide
    · decide
  rw [Text.utf8ByteSize_ascii hascii]
  rcases h with hv4 | hv6
  · exact hv4.length_le.trans (by decide)
  · exact hv6.length_le.trans (by decide)

end IsLiteral

/-- **A text is read as an address exactly if it is a literal of one of the two kinds.** -/
theorem isIpLiteral_iff {s : String} : Dns.isIpLiteral s = true ↔ IsLiteral s.toList := by
  rw [Dns.isIpLiteral, parse?, ofChars?, Option.isSome_or, Option.isSome_map, Option.isSome_map,
    Bool.or_eq_true, isSome_octets?, isSome_allGroups?, IsLiteral]

end IpAddress

end GatewayAdmission
