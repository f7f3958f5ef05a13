import PageAtlas.Proofs.Json.Written
import PageAtlas.Proofs.Ordered

/-!
# Reading what was written

A written value is read back, whatever gaps its tokens have between them, and reading stops
where the value does. For a number this asks that no character of a number follows, which
holds of gaps, commas and closing brackets. What the reader does with a text, a numeral and
a bracket is said once; the rest is along the derivation of the text.
-/

namespace PageAtlas.Json

open Text

/-! ## Texts -/

section Texts

variable {c x : Char} (rest : List Char)

theorem readString_letter (hc : c ≠ 'u') (hx : unescape? c = some x) :
    readString ('\\' :: c :: rest) = (readString rest).map fun (s, r) => (x :: s, r) := by
  rw [readString, hx]
  · exact fun _ _ _ _ _ _ _ _ _ h => absurd h hc
  · exact fun _ _ _ _ _ h => absurd h hc

theorem readString_bare (hquote : c ≠ '"') (hback : c ≠ '\\') (hlow : ¬ c.toNat < 0x20) :
    readString (c :: rest) = (readString rest).map fun (s, r) => (c :: s, r) := by
  rw [readString, if_neg (by simp [hback, hlow])]
  · exact hquote
  · exact fun _ _ _ _ _ _ _ _ _ h => absurd h hback
  · exact fun _ _ _ _ _ h => absurd h hback
  · exact fun _ _ h => absurd h hback

theorem readString_of_hex4?_eq_none {a b c d : Char} (h : hex4? a b c d = none) :
    readString ('\\' :: 'u' :: a :: b :: c :: d :: rest) = none := by
  -- Another number that follows is read together with this one.
  by_cases hmore : ∃ e f g i r, rest = '\\' :: 'u' :: e :: f :: g :: i :: r
  · obtain ⟨e, f, g, i, r, rfl⟩ := hmore
    rw [readString, h]
  · rw [readString, h]
    exact fun e f g i r hrest => hmore ⟨e, f, g, i, r, hrest⟩

theorem readString_number {a b c d : Char} {n : Nat} (h : hex4? a b c d = some n)
    (hn : n < 0xD800) : readString ('\\' :: 'u' :: a :: b :: c :: d :: rest) =
      (readString rest).map fun (s, r) => (Char.ofNat n :: s, r) := by
  by_cases hmore : ∃ e f g i r, rest = '\\' :: 'u' :: e :: f :: g :: i :: r
  · obtain ⟨e, f, g, i, r, rfl⟩ := hmore
    rw [readString, h]
    cases hlow : hex4? e f g i with
    | none => simp [readString_of_hex4?_eq_none r hlow]
    | some low =>
        -- No first half of a pair, so what follows is read by itself.
        have hsingle : ¬ 0xD800 ≤ n := Nat.not_le.2 hn
        simp [hsingle]
  · rw [readString, h]
    exact fun e f g i r hrest => hmore ⟨e, f, g, i, r, hrest⟩

theorem readString_escapeChar (c : Char) (rest : List Char) :
    readString (escapeChar c ++ rest) = (readString rest).map fun (s, r) => (c :: s, r) := by
  have hnumber : ∀ n < 0x20, ∃ a b c d, hexDigits 4 n = [a, b, c, d] ∧
      hex4? a b c d = some n := by
    intro n hn
    refine ⟨_, _, _, _, rfl, ?_⟩
    revert n
    decide
  unfold escapeChar
  split_ifs with _ _ _ _ _ _ _ hlow
  iterate 7
    subst_vars
    exact readString_letter rest (by decide) (by decide)
  · obtain ⟨a, b, d, e, hdigits, hhex⟩ := hnumber c.toNat hlow
    rw [hdigits]
    refine (readString_number rest hhex (by omega)).trans ?_
    rw [Char.ofNat_toNat]
  · exact readString_bare rest ‹_› ‹_› hlow

theorem readString_escape (cs rest : List Char) :
    readString (escape cs ++ '"' :: rest) = some (cs, rest) := by
  induction cs with
  | nil => rw [escape, List.nil_append, readString]
  | cons c cs ih =>
      rw [escape, List.append_assoc, readString_escapeChar, ih]
      rfl

end Texts

/-! ## Numbers -/

def Ended (rest : List Char) : Prop := ∀ c, rest.head? = some c → isNumberChar c = false

theorem isNumberChar_of_isDigit {c : Char} (h : Numeral.isDigit c = true) :
    isNumberChar c = true := by
  simp [isNumberChar, h]

theorem digits_of_all {ds : List Char} (h : ∀ c ∈ ds, Numeral.isDigit c = true) :
    digits ds = (ds, []) := by
  rw [digits, List.takeWhile_eq_self_iff.2 h, List.dropWhile_eq_nil_iff.2 h]

theorem readUnsigned_toDigits (negative : Bool) (n : Nat) :
    readUnsigned negative (Nat.toDigits 10 n) = some (.int (if negative then -n else n)) := by
  have hdigits := digits_of_all fun c hc => Numeral.isDigit_of_mem_toDigits (n := n) hc
  have hne : (Nat.toDigits 10 n).isEmpty = false := by
    rw [List.isEmpty_eq_false_iff]
    exact Nat.toDigits_ne_nil
  rw [readUnsigned, hdigits]
  simp only [hne, Numeral.value_toDigits]
  rfl

theorem exists_toDigits (n : Nat) :
    ∃ d ds, Nat.toDigits 10 n = d :: ds ∧ Numeral.isDigit d = true := by
  obtain ⟨d, ds, hdigits⟩ := List.exists_cons_of_ne_nil (Nat.toDigits_ne_nil (b := 10) (n := n))
  refine ⟨d, ds, hdigits, Numeral.isDigit_of_mem_toDigits (n := n) ?_⟩
  rw [hdigits]
  exact List.mem_cons_self

theorem readNumber_ofInt (i : Int) : readNumber (Numeral.ofInt i).toList = some (.int i) := by
  rcases Numeral.ofInt_cases i with ⟨n, rfl, htext⟩ | ⟨n, rfl, htext⟩
  · obtain ⟨d, ds, hdigits, hd⟩ := exists_toDigits n
    have hsign : d ≠ '-' := by
      rintro rfl
      exact absurd hd (by decide)
    have hread := readUnsigned_toDigits false n
    rw [hdigits] at hread
    rw [htext, hdigits, readNumber, hread]
    · rfl
    · exact fun _ h => absurd (List.cons.inj h).1 hsign
  · rw [htext, readNumber, readUnsigned_toDigits]
    rfl

theorem isNumberChar_of_mem_ofInt {i : Int} {c : Char} (h : c ∈ (Numeral.ofInt i).toList) :
    isNumberChar c = true := by
  rcases Numeral.eq_or_isDigit_of_mem_ofInt h with rfl | hdigit
  · decide
  · exact isNumberChar_of_isDigit hdigit

section Bare

variable {d : Char} (hd : Numeral.isDigit d = true) (ds : List Char)

include hd

-- What begins as a numeral is not taken for a word.

theorem readBare_of_digit : readBare (d :: ds) =
    (readNumber ((d :: ds).takeWhile isNumberChar)).map fun v =>
      (v, (d :: ds).dropWhile isNumberChar) := by
  rw [readBare]
  all_goals
    rintro r ⟨⟩
    exact absurd hd (by decide)

theorem readBare_of_sign : readBare ('-' :: d :: ds) =
    (readNumber (('-' :: d :: ds).takeWhile isNumberChar)).map fun v =>
      (v, ('-' :: d :: ds).dropWhile isNumberChar) := by
  rw [readBare]
  case x_6 =>
    rintro r ⟨⟩
    exact absurd hd (by decide)
  all_goals exact nofun

end Bare

theorem readBare_ofInt (i : Int) {rest : List Char} (hrest : Ended rest) :
    readBare ((Numeral.ofInt i).toList ++ rest) = some (.int i, rest) := by
  have hbare : readBare ((Numeral.ofInt i).toList ++ rest) =
      (readNumber (((Numeral.ofInt i).toList ++ rest).takeWhile isNumberChar)).map
        fun v => (v, ((Numeral.ofInt i).toList ++ rest).dropWhile isNumberChar) := by
    rcases Numeral.ofInt_cases i with ⟨n, rfl, htext⟩ | ⟨n, rfl, htext⟩
    · obtain ⟨d, ds, hdigits, hd⟩ := exists_toDigits n
      rw [htext, hdigits]
      exact readBare_of_digit hd (ds ++ rest)
    · obtain ⟨d, ds, hdigits, hd⟩ := exists_toDigits n
      rw [htext, hdigits]
      exact readBare_of_sign hd (ds ++ rest)
  have hall : ∀ c ∈ (Numeral.ofInt i).toList, isNumberChar c = true :=
    fun c hc => isNumberChar_of_mem_ofInt hc
  rw [hbare, List.takeWhile_append_of_pos hall, List.dropWhile_append_of_pos hall]
  cases rest with
  | nil => simp [readNumber_ofInt]
  | cons c rest =>
      have hc : isNumberChar c = false := hrest c rfl
      simp [hc, readNumber_ofInt]

/-! ## Steps of the reader -/

def Gap (cs : List Char) : Prop := ∀ c ∈ cs, isGap c = true

theorem Gap.of_subset {cs ds : List Char} (h : Gap ds) (hsub : cs ⊆ ds) : Gap cs :=
  fun c hc => h c (hsub hc)

theorem gap_blank : Gap [' '] := List.forall_mem_singleton.2 rfl

instance (cs : List Char) : Decidable (Gap cs) := List.decidableBAll _ cs

theorem skipGaps_cons {c : Char} (h : isGap c = false) (cs : List Char) :
    skipGaps (c :: cs) = c :: cs := List.dropWhile_cons_of_neg (by simp [h])

section Gaps

variable {gap : List Char} (hgap : Gap gap) (fuel : Nat) (cs : List Char)

include hgap

theorem skipGaps_append : skipGaps (gap ++ cs) = skipGaps cs := List.dropWhile_append_of_pos hgap

theorem skipGaps_append_cons {c : Char} (h : isGap c = false) :
    skipGaps (gap ++ c :: cs) = c :: cs := by
  rw [skipGaps_append hgap, skipGaps_cons h]

omit hgap in
theorem isNumberChar_of_isGap {c : Char} (h : isGap c = true) : isNumberChar c = false := by
  simp only [isGap, Bool.or_eq_true, beq_iff_eq] at h
  rcases h with ((rfl | rfl) | rfl) | rfl <;> decide

theorem Gap.ended : Ended gap := fun c hc =>
  isNumberChar_of_isGap (hgap c (List.mem_of_head? hc))

theorem ended_append {c : Char} (hc : isNumberChar c = false) : Ended (gap ++ c :: cs) := by
  cases gap with
  | nil =>
      intro d hd
      cases hd
      exact hc
  | cons e gap =>
      -- The gap itself ends the number.
      intro d hd
      exact Gap.ended hgap d hd

theorem readValue_append : readValue fuel (gap ++ cs) = readValue fuel cs := by
  cases fuel with
  | zero => rfl
  | succ fuel => rw [readValue, readValue, skipGaps_append hgap]

theorem readItems_append : readItems fuel (gap ++ cs) = readItems fuel cs := by
  cases fuel with
  | zero => rfl
  | succ fuel => rw [readItems, readItems, readValue_append hgap]

theorem readMembers_append : readMembers fuel (gap ++ cs) = readMembers fuel cs := by
  cases fuel with
  | zero => rfl
  | succ fuel => rw [readMembers, readMembers, skipGaps_append hgap]

theorem readValue_noItems :
    readValue (fuel + 1) ('[' :: (gap ++ ']' :: cs)) = some (.arr [], cs) := by
  rw [readValue, skipGaps_cons (by decide)]
  simp only [skipGaps_append_cons hgap _ (show isGap ']' = false by decide)]

theorem readValue_noMembers :
    readValue (fuel + 1) ('\x7b' :: (gap ++ '\x7d' :: cs)) = some (.obj [], cs) := by
  rw [readValue, skipGaps_cons (by decide)]
  simp only [skipGaps_append_cons hgap _ (show isGap '\x7d' = false by decide)]

theorem readValue_items {c : Char} (hc : isGap c = false) (hne : c ≠ ']') :
    readValue (fuel + 1) ('[' :: (gap ++ c :: cs)) =
      (readItems fuel (c :: cs)).map fun (xs, r) => (.arr xs, r) := by
  rw [readValue, skipGaps_cons (by decide)]
  simp only [skipGaps_append_cons hgap _ hc]
  split
  · next h => exact absurd (List.cons.inj h).1 hne
  · rfl

theorem readValue_members {c : Char} (hc : isGap c = false) (hne : c ≠ '\x7d') :
    readValue (fuel + 1) ('\x7b' :: (gap ++ c :: cs)) =
      (readMembers fuel (c :: cs)).map fun (ms, r) => (.obj (Ordered.ofList ms), r) := by
  rw [readValue, skipGaps_cons (by decide)]
  simp only [skipGaps_append_cons hgap _ hc]
  split
  · next h => exact absurd (List.cons.inj h).1 hne
  · rfl

variable {fuel cs}

theorem readItems_last {v : Json} {ds : List Char}
    (h : readValue fuel ds = some (v, gap ++ ']' :: cs)) :
    readItems (fuel + 1) ds = some ([v], cs) := by
  rw [readItems, h]
  simp only [skipGaps_append_cons hgap _ (show isGap ']' = false by decide)]

theorem readItems_cons {v : Json} {ds : List Char}
    (h : readValue fuel ds = some (v, gap ++ ',' :: cs)) :
    readItems (fuel + 1) ds = (readItems fuel cs).map fun (vs, r) => (v :: vs, r) := by
  rw [readItems, h]
  simp only [skipGaps_append_cons hgap _ (show isGap ',' = false by decide)]

end Gaps

section Quotes

variable {gap gap' cs ds : List Char} (name : String)

theorem quoted_append (s : String) (rest : List Char) :
    quoted s ++ rest = '"' :: (escape s.toList ++ '"' :: rest) := by
  simp [quoted]

theorem readValue_quoted (fuel : Nat) (s : String) (rest : List Char) :
    readValue (fuel + 1) (quoted s ++ rest) = some (.str s, rest) := by
  rw [quoted_append, readValue, skipGaps_cons (by decide)]
  simp only [readString_escape, Option.map_some, String.ofList_toList]

variable {fuel : Nat} {v : Json} (hgap : Gap gap) (hgap' : Gap gap')

include hgap hgap'

theorem readMembers_last (h : readValue fuel ds = some (v, gap' ++ '\x7d' :: cs)) :
    readMembers (fuel + 1) (quoted name ++ (gap ++ ':' :: ds)) = some ([(name, v)], cs) := by
  rw [quoted_append, readMembers, skipGaps_cons (by decide)]
  simp only [readString_escape, skipGaps_append_cons hgap _ (show isGap ':' = false by decide), h,
    skipGaps_append_cons hgap' _ (show isGap '\x7d' = false by decide), String.ofList_toList]

theorem readMembers_cons (h : readValue fuel ds = some (v, gap' ++ ',' :: cs)) :
    readMembers (fuel + 1) (quoted name ++ (gap ++ ':' :: ds)) =
      (readMembers fuel cs).map fun (ms, r) => ((name, v) :: ms, r) := by
  rw [quoted_append, readMembers, skipGaps_cons (by decide)]
  simp only [readString_escape, skipGaps_append_cons hgap _ (show isGap ':' = false by decide), h,
    skipGaps_append_cons hgap' _ (show isGap ',' = false by decide), String.ofList_toList]

end Quotes

theorem readValue_bare {c : Char} (hgap : isGap c = false) (hc : c ∉ ['"', '[', '\x7b'])
    (fuel : Nat) (cs : List Char) : readValue (fuel + 1) (c :: cs) = readBare (c :: cs) := by
  simp only [List.mem_cons, List.not_mem_nil, or_false, not_or] at hc
  obtain ⟨hquote, hbracket, hbrace⟩ := hc
  rw [readValue, skipGaps_cons hgap]
  split
  · next h => exact absurd (List.cons.inj h).1 hquote
  · next h => exact absurd (List.cons.inj h).1 hbracket
  · next h => exact absurd (List.cons.inj h).1 hbrace
  · rfl

/-! ## Written values -/

theorem ofInt_begins (i : Int) : ∃ c cs, (Numeral.ofInt i).toList = c :: cs ∧
    isGap c = false ∧ c ∉ [']', '"', '[', '\x7b'] := by
  have hne : (Numeral.ofInt i).toList ≠ [] := by
    rcases Numeral.ofInt_cases i with ⟨n, rfl, htext⟩ | ⟨n, rfl, htext⟩
    · rw [htext]
      exact Nat.toDigits_ne_nil
    · rw [htext]
      exact List.cons_ne_nil _ _
  obtain ⟨c, cs, htext⟩ := List.exists_cons_of_ne_nil hne
  have hnumber : isNumberChar c = true := isNumberChar_of_mem_ofInt (htext ▸ List.mem_cons_self)
  have hnot (d : Char) (hd : isNumberChar d = false) : c ≠ d := by
    rintro rfl
    rw [hd] at hnumber
    cases hnumber
  refine ⟨c, cs, htext, ?_, ?_⟩
  · simp [isGap, hnot ' ' rfl, hnot '\t' rfl, hnot '\n' rfl, hnot '\r' rfl]
  · simp [hnot ']' rfl, hnot '"' rfl, hnot '[' rfl, hnot '\x7b' rfl]

theorem Writes.begins {blanks cs : List Char} {v : Json} (h : Writes blanks v cs) :
    ∃ c ds, cs = c :: ds ∧ isGap c = false ∧ c ≠ ']' := by
  cases h with
  | null => exact ⟨_, _, rfl, by decide, by decide⟩
  | bool b => cases b <;> exact ⟨_, _, rfl, by decide, by decide⟩
  | int i =>
      obtain ⟨c, cs, htext, hgap, hc⟩ := ofInt_begins i
      exact ⟨c, cs, htext, hgap, fun h => hc (h ▸ List.mem_cons_self)⟩
  | str s => exact ⟨_, _, rfl, by decide, by decide⟩
  | noItems => exact ⟨_, _, rfl, by decide, by decide⟩
  | items => exact ⟨_, _, rfl, by decide, by decide⟩
  | noMembers => exact ⟨_, _, rfl, by decide, by decide⟩
  | members => exact ⟨_, _, rfl, by decide, by decide⟩

theorem readValue_ofInt (fuel : Nat) (i : Int) {rest : List Char} (hrest : Ended rest) :
    readValue (fuel + 1) (scalar (.int i) ++ rest) = some (.int i, rest) := by
  obtain ⟨c, cs, htext, hgap, hc⟩ := ofInt_begins i
  have hbare := readBare_ofInt i hrest
  rw [htext] at hbare
  rw [scalar, htext, List.cons_append, readValue_bare hgap fun h => hc (List.mem_cons_of_mem _ h)]
  exact hbare

theorem WritesItems.begins {blanks cs : List Char} {vs : List Json}
    (h : WritesItems blanks vs cs) : ∃ c ds, cs = c :: ds ∧ isGap c = false ∧ c ≠ ']' := by
  cases h with
  | last h hgap =>
      obtain ⟨c, ds, rfl, hc⟩ := h.begins
      exact ⟨c, _, rfl, hc⟩
  | cons h hgap hgap' hrest =>
      obtain ⟨c, ds, rfl, hc⟩ := h.begins
      exact ⟨c, _, rfl, hc⟩

theorem WritesMembers.begins {blanks cs : List Char} {ms : List (String × Json)}
    (h : WritesMembers blanks ms cs) : ∃ ds, cs = '"' :: ds := by
  cases h with
  | last h hgap =>
      cases h with
      | colon => exact ⟨_, rfl⟩
  | cons h hgap hgap' hrest =>
      cases h with
      | colon => exact ⟨_, rfl⟩

-- Along the derivation. What ends an item or a member ends a number.

mutual

theorem Writes.readValue {blanks cs : List Char} {v : Json} (h : Writes blanks v cs)
    (hblanks : Gap blanks) {fuel : Nat} (hfuel : cs.length ≤ fuel) {rest : List Char}
    (hrest : Ended rest) : Json.readValue fuel (cs ++ rest) = some (v, rest) := by
  obtain ⟨fuel, rfl⟩ : ∃ f, fuel = f + 1 := by
    obtain ⟨c, ds, rfl, -⟩ := h.begins
    rw [List.length_cons] at hfuel
    exact ⟨fuel - 1, by omega⟩
  cases h with
  | null => rfl
  | bool b => cases b <;> rfl
  | int i => exact readValue_ofInt fuel i hrest
  | str s => exact readValue_quoted fuel s rest
  | @noItems gap hgap =>
      have hread := readValue_noItems (hblanks.of_subset hgap) fuel rest
      rwa [List.cons_append, List.append_assoc]
  | @items gap cs items hgap h =>
      rw [List.length_cons, List.length_append] at hfuel
      have hitems : Json.readItems fuel (cs ++ rest) = some (items, rest) :=
        h.readItems hblanks (by omega) rest
      obtain ⟨c, ds, rfl, hc, hne⟩ := h.begins
      have hread := readValue_items (hblanks.of_subset hgap) fuel (ds ++ rest) hc hne
      rw [List.cons_append] at hitems
      rw [hitems, Option.map_some] at hread
      rwa [List.cons_append, List.append_assoc]
  | @noMembers gap hgap =>
      have hread := readValue_noMembers (hblanks.of_subset hgap) fuel rest
      rwa [List.cons_append, List.append_assoc]
  | @members gap cs members hgap hkeys h =>
      rw [List.length_cons, List.length_append] at hfuel
      have hmembers : Json.readMembers fuel (cs ++ rest) = some (members, rest) :=
        h.readMembers hblanks (by omega) rest
      obtain ⟨ds, rfl⟩ := h.begins
      have hread := readValue_members (hblanks.of_subset hgap) fuel (ds ++ rest)
        (show isGap '"' = false by decide) (by decide)
      rw [List.cons_append] at hmembers
      rw [hmembers, Option.map_some] at hread
      simp only [Ordered.ofList_of_nodup hkeys] at hread
      rwa [List.cons_append, List.append_assoc]

theorem WritesItems.readItems {blanks cs : List Char} {vs : List Json}
    (h : WritesItems blanks vs cs) (hblanks : Gap blanks) {fuel : Nat}
    (hfuel : cs.length ≤ fuel) (rest : List Char) :
    Json.readItems fuel (cs ++ rest) = some (vs, rest) := by
  cases h with
  | @last v cs gap h hgap =>
      rw [List.length_append, List.length_append, List.length_singleton] at hfuel
      obtain ⟨fuel, rfl⟩ : ∃ f, fuel = f + 1 := ⟨fuel - 1, by omega⟩
      have hended : Ended (gap ++ ']' :: rest) :=
        ended_append (hblanks.of_subset hgap) rest (by decide)
      have hvalue : Json.readValue fuel (cs ++ (gap ++ ']' :: rest)) =
          some (v, gap ++ ']' :: rest) := h.readValue hblanks (by omega) hended
      simpa using readItems_last (hblanks.of_subset hgap) hvalue
  | @cons v vs cs gap gap' ds h hgap hgap' hrest =>
      rw [List.length_append, List.length_append, List.length_cons, List.length_append] at hfuel
      obtain ⟨fuel, rfl⟩ : ∃ f, fuel = f + 1 := ⟨fuel - 1, by omega⟩
      have hended : Ended (gap ++ ',' :: (gap' ++ (ds ++ rest))) :=
        ended_append (hblanks.of_subset hgap) _ (by decide)
      have hvalue : Json.readValue fuel (cs ++ (gap ++ ',' :: (gap' ++ (ds ++ rest)))) =
          some (v, gap ++ ',' :: (gap' ++ (ds ++ rest))) := h.readValue hblanks (by omega) hended
      have hothers : Json.readItems fuel (ds ++ rest) = some (vs, rest) :=
        hrest.readItems hblanks (by omega) rest
      have hcons := readItems_cons (hblanks.of_subset hgap) hvalue
      rw [readItems_append (hblanks.of_subset hgap'), hothers] at hcons
      simpa using hcons

theorem WritesMembers.readMembers {blanks cs : List Char} {ms : List (String × Json)}
    (h : WritesMembers blanks ms cs) (hblanks : Gap blanks) {fuel : Nat}
    (hfuel : cs.length ≤ fuel) (rest : List Char) :
    Json.readMembers fuel (cs ++ rest) = some (ms, rest) := by
  cases h with
  | @last e cs gap h hgap =>
      cases h with
      | @colon name v cs before after hbefore hafter h =>
          simp only [List.length_append, List.length_cons] at hfuel
          obtain ⟨fuel, rfl⟩ : ∃ f, fuel = f + 1 := ⟨fuel - 1, by omega⟩
          have hended : Ended (gap ++ '\x7d' :: rest) :=
            ended_append (hblanks.of_subset hgap) rest (by decide)
          have hvalue : Json.readValue fuel (after ++ (cs ++ (gap ++ '\x7d' :: rest))) =
              some (v, gap ++ '\x7d' :: rest) := by
            rw [readValue_append (hblanks.of_subset hafter)]
            exact h.readValue hblanks (by omega) hended
          have hlast := readMembers_last name (hblanks.of_subset hbefore) (hblanks.of_subset hgap)
            hvalue
          simpa using hlast
  | @cons e ms cs gap gap' ds h hgap hgap' hrest =>
      cases h with
      | @colon name v cs before after hbefore hafter h =>
          simp only [List.length_append, List.length_cons] at hfuel
          obtain ⟨fuel, rfl⟩ : ∃ f, fuel = f + 1 := ⟨fuel - 1, by omega⟩
          have hended : Ended (gap ++ ',' :: (gap' ++ (ds ++ rest))) :=
            ended_append (hblanks.of_subset hgap) _ (by decide)
          have hvalue : Json.readValue fuel
              (after ++ (cs ++ (gap ++ ',' :: (gap' ++ (ds ++ rest))))) =
                some (v, gap ++ ',' :: (gap' ++ (ds ++ rest))) := by
            rw [readValue_append (hblanks.of_subset hafter)]
            exact h.readValue hblanks (by omega) hended
          have hothers : Json.readMembers fuel (ds ++ rest) = some (ms, rest) :=
            hrest.readMembers hblanks (by omega) rest
          have hcons := readMembers_cons name (hblanks.of_subset hbefore) (hblanks.of_subset hgap)
            hvalue
          rw [readMembers_append (hblanks.of_subset hgap'), hothers] at hcons
          simpa using hcons

end

theorem parse?_of_writes {blanks gap cs : List Char} {v : Json} (h : Writes blanks v cs)
    (hblanks : Gap blanks) (hgap : Gap gap) : parse? (String.ofList (cs ++ gap)) = some v := by
  have hread : readValue (2 * (cs ++ gap).length + 2) (cs ++ gap) = some (v, gap) := by
    refine h.readValue hblanks ?_ hgap.ended
    rw [List.length_append]
    omega
  have hend : skipGaps gap = [] := List.dropWhile_eq_nil_iff.2 hgap
  rw [parse?, String.toList_ofList, hread]
  simp [hend]

theorem parse?_compact {v : Json} (h : Discrete v) : parse? v.compact = some v := by
  have hparse := parse?_of_writes (writes_line h) gap_blank (List.forall_mem_nil _)
  rwa [List.append_nil] at hparse

/-- A value over several lines is read back also from a line break behind it. -/
theorem parse?_pretty_append {v : Json} (h : Discrete v) : parse? (v.pretty ++ "\n") = some v := by
  have hblanks : Gap ['\n', ' '] := by decide
  have hbreak : Gap ['\n'] := by decide
  have hparse := parse?_of_writes (writes_block h 0) hblanks hbreak
  rwa [String.ofList_append] at hparse

end PageAtlas.Json
