import PageAtlas.Json.Printer
import PageAtlas.Json.Reader
import PageAtlas.Proofs.Text.Numeral

/-!
# Written values

A value without doubles is written by its tokens, with gaps between them. What is written
on one line has no gaps other than single blanks, and no character below U+0020 at all:
a text in quotes holds none.
-/

namespace PageAtlas

namespace Json

/-- Values that consist of truth values, integers, texts, lists and mappings, the names in
a mapping being distinct. -/
inductive Discrete : Json → Prop
  | null : Discrete .null
  | bool (b : Bool) : Discrete (.bool b)
  | int (i : Int) : Discrete (.int i)
  | str (s : String) : Discrete (.str s)
  | arr {items : List Json} (h : ∀ j ∈ items, Discrete j) : Discrete (.arr items)
  | obj {members : List (String × Json)} (hkeys : (members.map Prod.fst).Nodup)
      (h : ∀ e ∈ members, Discrete e.2) : Discrete (.obj members)

attribute [simp] Discrete.null Discrete.bool Discrete.int Discrete.str

@[simp] theorem discrete_arr {items : List Json} :
    Discrete (.arr items) ↔ ∀ j ∈ items, Discrete j := by
  refine ⟨fun h => ?_, .arr⟩
  cases h with
  | arr h => exact h

@[simp] theorem discrete_obj {members : List (String × Json)} :
    Discrete (.obj members) ↔
      (members.map Prod.fst).Nodup ∧ ∀ e ∈ members, Discrete e.2 := by
  refine ⟨fun h => ?_, fun h => .obj h.1 h.2⟩
  cases h with
  | obj hkeys h => exact ⟨hkeys, h⟩

/-- A value is a part of another one, which may be itself. -/
inductive Within (v : Json) : Json → Prop
  | self : Within v v
  | item {items : List Json} {w : Json} (hw : w ∈ items) (h : Within v w) : Within v (.arr items)
  | member {members : List (String × Json)} {e : String × Json} (he : e ∈ members)
      (h : Within v e.2) : Within v (.obj members)

/-- No integer in a value has more digits than can be written. -/
def Bounded (v : Json) : Prop := ∀ i, Within (.int i) v → i.natAbs < 10 ^ Text.Numeral.maxDigits

theorem bounded_arr {items : List Json} : Bounded (.arr items) ↔ ∀ w ∈ items, Bounded w := by
  constructor
  · exact fun h w hw i hi => h i (.item hw hi)
  · intro h i hi
    cases hi with
    | item hw hi => exact h _ hw i hi

theorem bounded_obj {members : List (String × Json)} :
    Bounded (.obj members) ↔ ∀ e ∈ members, Bounded e.2 := by
  constructor
  · exact fun h e he i hi => h i (.member he hi)
  · intro h i hi
    cases hi with
    | member he hi => exact h _ he i hi

theorem bounded_int {i : Int} : Bounded (.int i) ↔ i.natAbs < 10 ^ Text.Numeral.maxDigits := by
  constructor
  · exact fun h => h i .self
  · intro h j hj
    cases hj
    exact h

mutual

theorem isWritable_iff (v : Json) : v.isWritable = true ↔ Bounded v := by
  cases v with
  | int i =>
      rw [isWritable, bounded_int, Bool.not_eq_true', Text.Numeral.isOversized_eq_false_iff]
  | arr items => rw [isWritable, bounded_arr, areWritable_iff]
  | obj members => rw [isWritable, bounded_obj, haveWritable_iff]
  | _ => exact iff_of_true rfl fun i hi => by cases hi

theorem areWritable_iff (vs : List Json) : areWritable vs = true ↔ ∀ v ∈ vs, Bounded v := by
  match vs with
  | [] => simp [areWritable]
  | v :: vs =>
      rw [areWritable, Bool.and_eq_true, isWritable_iff, areWritable_iff, List.forall_mem_cons]

theorem haveWritable_iff (ms : List (String × Json)) :
    haveWritable ms = true ↔ ∀ e ∈ ms, Bounded e.2 := by
  match ms with
  | [] => simp [haveWritable]
  | (k, v) :: ms =>
      rw [haveWritable, Bool.and_eq_true, isWritable_iff, haveWritable_iff, List.forall_mem_cons]

end

theorem write_of_bounded {v : Json} (h : Bounded v) : v.write = .ok v.compact := by
  rw [write, if_pos ((isWritable_iff v).2 h)]

theorem write_of_not_bounded {v : Json} (h : ¬Bounded v) : v.write = .error .oversizedInteger := by
  rw [write, if_neg fun hw => h ((isWritable_iff v).1 hw)]

mutual

/-- A text of a value, with gaps of the given characters. -/
inductive Writes (blanks : List Char) : Json → List Char → Prop
  | null : Writes blanks .null (scalar .null)
  | bool (b : Bool) : Writes blanks (.bool b) (scalar (.bool b))
  | int (i : Int) : Writes blanks (.int i) (scalar (.int i))
  | str (s : String) : Writes blanks (.str s) (quoted s)
  | noItems {gap : List Char} (hgap : gap ⊆ blanks) :
      Writes blanks (.arr []) ('[' :: (gap ++ [']']))
  | items {gap cs : List Char} {items : List Json} (hgap : gap ⊆ blanks)
      (h : WritesItems blanks items cs) : Writes blanks (.arr items) ('[' :: (gap ++ cs))
  | noMembers {gap : List Char} (hgap : gap ⊆ blanks) :
      Writes blanks (.obj []) ('\x7b' :: (gap ++ ['\x7d']))
  | members {gap cs : List Char} {members : List (String × Json)} (hgap : gap ⊆ blanks)
      (hkeys : (members.map Prod.fst).Nodup) (h : WritesMembers blanks members cs) :
      Writes blanks (.obj members) ('\x7b' :: (gap ++ cs))

/-- The items of a list, from the first to the closing bracket. -/
inductive WritesItems (blanks : List Char) : List Json → List Char → Prop
  | last {v : Json} {cs gap : List Char} (h : Writes blanks v cs) (hgap : gap ⊆ blanks) :
      WritesItems blanks [v] (cs ++ (gap ++ [']']))
  | cons {v : Json} {vs : List Json} {cs gap gap' ds : List Char} (h : Writes blanks v cs)
      (hgap : gap ⊆ blanks) (hgap' : gap' ⊆ blanks) (hrest : WritesItems blanks vs ds) :
      WritesItems blanks (v :: vs) (cs ++ (gap ++ ',' :: (gap' ++ ds)))

/-- The members of a mapping, from the first to the closing brace. -/
inductive WritesMembers (blanks : List Char) : List (String × Json) → List Char → Prop
  | last {e : String × Json} {cs gap : List Char} (h : WritesMember blanks e cs)
      (hgap : gap ⊆ blanks) : WritesMembers blanks [e] (cs ++ (gap ++ ['\x7d']))
  | cons {e : String × Json} {ms : List (String × Json)} {cs gap gap' ds : List Char}
      (h : WritesMember blanks e cs) (hgap : gap ⊆ blanks) (hgap' : gap' ⊆ blanks)
      (hrest : WritesMembers blanks ms ds) :
      WritesMembers blanks (e :: ms) (cs ++ (gap ++ ',' :: (gap' ++ ds)))

inductive WritesMember (blanks : List Char) : String × Json → List Char → Prop
  | colon {name : String} {v : Json} {cs gap gap' : List Char} (hgap : gap ⊆ blanks)
      (hgap' : gap' ⊆ blanks) (h : Writes blanks v cs) :
      WritesMember blanks (name, v) (quoted name ++ (gap ++ ':' :: (gap' ++ cs)))

end

/-! ## Characters -/

/-- No character below U+0020, and so no line break. -/
def Visible (cs : List Char) : Prop := ∀ c ∈ cs, 0x20 ≤ c.toNat

instance (cs : List Char) : Decidable (Visible cs) := List.decidableBAll _ cs

@[simp] theorem visible_nil : Visible [] := fun _ hc => nomatch hc

@[simp] theorem visible_cons {c : Char} {cs : List Char} :
    Visible (c :: cs) ↔ 0x20 ≤ c.toNat ∧ Visible cs := List.forall_mem_cons

@[simp] theorem visible_append {cs ds : List Char} :
    Visible (cs ++ ds) ↔ Visible cs ∧ Visible ds := List.forall_mem_append

theorem Visible.of_subset {cs ds : List Char} (h : Visible ds) (hsub : cs ⊆ ds) : Visible cs :=
  fun c hc => h c (hsub hc)

theorem visible_escapeChar (c : Char) : Visible (escapeChar c) := by
  have hnumber : ∀ n < 0x20, Visible ('\\' :: 'u' :: Text.hexDigits 4 n) := by decide
  unfold escapeChar
  split_ifs with _ _ _ _ _ _ _ hlow
  iterate 7 decide
  · exact hnumber c.toNat hlow
  · exact List.forall_mem_singleton.2 (Nat.le_of_not_lt hlow)

@[simp] theorem visible_quoted (s : String) : Visible (quoted s) := by
  have hescape : ∀ cs, Visible (escape cs) := by
    intro cs
    induction cs with
    | nil => exact visible_nil
    | cons c cs ih => exact visible_append.2 ⟨visible_escapeChar c, ih⟩
  simp [quoted, hescape]

theorem visible_ofInt (i : Int) : Visible (Text.Numeral.ofInt i).toList := by
  intro c hc
  rcases Text.Numeral.eq_or_isDigit_of_mem_ofInt hc with rfl | hdigit
  · decide
  · have hbounds := Text.Numeral.isDigit_iff.1 hdigit
    omega

-- A value, its items and its members are looked at along the derivation.

mutual

theorem Writes.visible {blanks cs : List Char} {v : Json} (h : Writes blanks v cs)
    (hblanks : Visible blanks) : Visible cs := by
  cases h with
  | null => decide
  | bool b => cases b <;> decide
  | int i => exact visible_ofInt i
  | str s => exact visible_quoted s
  | noItems hgap => simp [hblanks.of_subset hgap]
  | items hgap h =>
      have hitems := h.visible hblanks
      simp [hblanks.of_subset hgap, hitems]
  | noMembers hgap => simp [hblanks.of_subset hgap]
  | members hgap hkeys h =>
      have hmembers := h.visible hblanks
      simp [hblanks.of_subset hgap, hmembers]

theorem WritesItems.visible {blanks cs : List Char} {vs : List Json}
    (h : WritesItems blanks vs cs) (hblanks : Visible blanks) : Visible cs := by
  cases h with
  | last h hgap =>
      have hlast := h.visible hblanks
      simp [hblanks.of_subset hgap, hlast]
  | cons h hgap hgap' hrest =>
      have hfirst := h.visible hblanks
      have hothers := hrest.visible hblanks
      simp [hblanks.of_subset hgap, hblanks.of_subset hgap', hfirst, hothers]

theorem WritesMembers.visible {blanks cs : List Char} {ms : List (String × Json)}
    (h : WritesMembers blanks ms cs) (hblanks : Visible blanks) : Visible cs := by
  cases h with
  | last h hgap =>
      have hlast := h.visible hblanks
      simp [hblanks.of_subset hgap, hlast]
  | cons h hgap hgap' hrest =>
      have hfirst := h.visible hblanks
      have hothers := hrest.visible hblanks
      simp [hblanks.of_subset hgap, hblanks.of_subset hgap', hfirst, hothers]

theorem WritesMember.visible {blanks cs : List Char} {e : String × Json}
    (h : WritesMember blanks e cs) (hblanks : Visible blanks) : Visible cs := by
  cases h with
  | colon hgap hgap' h =>
      have hvalue := h.visible hblanks
      simp [hblanks.of_subset hgap, hblanks.of_subset hgap', hvalue]

end

/-! ## Layouts -/

section Layouts

variable {blanks gap gap' : List Char} {text : Json → List Char}

/-- Items that are all written in one way, with one gap in front of each and one behind
the last. -/
theorem writesItems_flatMap (hnone : [] ⊆ blanks) (hgap : gap ⊆ blanks) (hgap' : gap' ⊆ blanks)
    {v : Json} {vs : List Json} (h : ∀ j ∈ v :: vs, Writes blanks j (text j)) :
    WritesItems blanks (v :: vs)
      (text v ++ (vs.flatMap fun j => ',' :: (gap ++ text j)) ++ (gap' ++ [']'])) := by
  induction vs generalizing v with
  | nil =>
      have hlast := WritesItems.last (h v List.mem_cons_self) hgap'
      simpa using hlast
  | cons w vs ih =>
      have hrest := ih fun j hj => h j (List.mem_cons_of_mem v hj)
      have hcons := WritesItems.cons (h v List.mem_cons_self) hnone hgap hrest
      simpa using hcons

/-- Members that are all written in one way, with one gap in front of each and one behind
the last, and a blank behind each colon. -/
theorem writesMembers_flatMap (hnone : [] ⊆ blanks) (hblank : [' '] ⊆ blanks)
    (hgap : gap ⊆ blanks) (hgap' : gap' ⊆ blanks) {e : String × Json} {ms : List (String × Json)}
    (h : ∀ m ∈ e :: ms, Writes blanks m.2 (text m.2)) :
    WritesMembers blanks (e :: ms)
      (quoted e.1 ++ ':' :: ' ' :: text e.2 ++
        (ms.flatMap fun m => ',' :: (gap ++ (quoted m.1 ++ ':' :: ' ' :: text m.2))) ++
        (gap' ++ ['\x7d'])) := by
  have hmember (e : String × Json) (he : Writes blanks e.2 (text e.2)) :
      WritesMember blanks e (quoted e.1 ++ ':' :: ' ' :: text e.2) := by
    have hcolon : WritesMember blanks e (quoted e.1 ++ ([] ++ ':' :: ([' '] ++ text e.2))) :=
      .colon hnone hblank he
    exact hcolon
  induction ms generalizing e with
  | nil =>
      have hlast := WritesMembers.last (hmember e (h e List.mem_cons_self)) hgap'
      simpa using hlast
  | cons m ms ih =>
      have hrest := ih fun m' hm' => h m' (List.mem_cons_of_mem e hm')
      have hcons := WritesMembers.cons (hmember e (h e List.mem_cons_self)) hnone hgap hrest
      simpa using hcons

end Layouts

/-! ## Values on one line -/

theorem lineItems_eq (vs : List Json) :
    lineItems vs = (vs.flatMap fun j => ',' :: ([' '] ++ line j)) ++ [']'] := by
  induction vs with
  | nil => rfl
  | cons v vs ih =>
      rw [lineItems, ih, List.flatMap_cons]
      simp

theorem lineMembers_eq (ms : List (String × Json)) :
    lineMembers ms =
      (ms.flatMap fun m => ',' :: ([' '] ++ (quoted m.1 ++ ':' :: ' ' :: line m.2))) ++
        ['\x7d'] := by
  induction ms with
  | nil => rfl
  | cons m ms ih =>
      rw [lineMembers, ih, List.flatMap_cons]
      simp

theorem writes_line {v : Json} (h : Discrete v) : Writes [' '] v (line v) := by
  have hnone : [] ⊆ [' '] := List.nil_subset _
  have hblank : [' '] ⊆ [' '] := List.Subset.refl _
  induction h with
  | null => exact .null
  | bool b => exact .bool b
  | int i => exact .int i
  | str s => exact .str s
  | @arr items _ ih =>
      cases items with
      | nil =>
          have hempty := Writes.noItems hnone
          exact hempty
      | cons v vs =>
          have hitems := Writes.items hnone (writesItems_flatMap hnone hblank hnone ih)
          rw [line, lineItems_eq]
          simpa using hitems
  | @obj members hkeys _ ih =>
      cases members with
      | nil =>
          have hempty := Writes.noMembers hnone
          exact hempty
      | cons e ms =>
          have hmembers :=
            Writes.members hnone hkeys (writesMembers_flatMap hnone hblank hblank hnone ih)
          rw [line, lineMembers_eq]
          simpa using hmembers

/-! ## Values over several lines -/

theorem blockItems_eq (level : Nat) (vs : List Json) :
    blockItems level vs =
      (vs.flatMap fun j => ',' :: (newline (level + 1) ++ block (level + 1) j)) ++
        (newline level ++ [']']) := by
  induction vs with
  | nil => rfl
  | cons v vs ih =>
      rw [blockItems, ih, List.flatMap_cons]
      simp

theorem blockMembers_eq (level : Nat) (ms : List (String × Json)) :
    blockMembers level ms =
      (ms.flatMap fun m =>
        ',' :: (newline (level + 1) ++ (quoted m.1 ++ ':' :: ' ' :: block (level + 1) m.2))) ++
        (newline level ++ ['\x7d']) := by
  induction ms with
  | nil => rfl
  | cons m ms ih =>
      rw [blockMembers, ih, List.flatMap_cons]
      simp

theorem newline_subset (level : Nat) : newline level ⊆ ['\n', ' '] := by
  intro c hc
  rcases List.mem_cons.1 hc with rfl | hc
  · exact List.mem_cons_self
  · rw [List.eq_of_mem_replicate hc]
    exact List.mem_cons_of_mem _ List.mem_cons_self

theorem writes_block {v : Json} (h : Discrete v) (level : Nat) :
    Writes ['\n', ' '] v (block level v) := by
  have hnone : [] ⊆ ['\n', ' '] := List.nil_subset _
  have hblank : [' '] ⊆ ['\n', ' '] := List.subset_cons_self '\n' [' ']
  induction h generalizing level with
  | null => exact .null
  | bool b => exact .bool b
  | int i => exact .int i
  | str s => exact .str s
  | @arr items _ ih =>
      cases items with
      | nil =>
          have hempty := Writes.noItems hnone
          exact hempty
      | cons v vs =>
          have hitems := Writes.items (newline_subset (level + 1))
            (writesItems_flatMap hnone (newline_subset (level + 1)) (newline_subset level)
              fun j hj => ih j hj (level + 1))
          rw [block, blockItems_eq]
          simpa using hitems
  | @obj members hkeys _ ih =>
      cases members with
      | nil =>
          have hempty := Writes.noMembers hnone
          exact hempty
      | cons e ms =>
          have hmembers := Writes.members (newline_subset (level + 1)) hkeys
            (writesMembers_flatMap hnone hblank (newline_subset (level + 1)) (newline_subset level)
              fun m hm => ih m hm (level + 1))
          rw [block, blockMembers_eq]
          simpa using hmembers

theorem visible_compact {v : Json} (h : Discrete v) : Visible v.compact.toList := by
  rw [compact, String.toList_ofList]
  exact (writes_line h).visible (by decide)

end Json

end PageAtlas
