import PageAtlas.Ordered
import Mathlib.Data.List.Induction
import Mathlib.Data.List.Nodup
import Mathlib.Data.List.Perm.Basic

/-!
# Laws of ordered mappings

What is bound after a key has been written or removed, or one mapping laid over another.
Of a list of entries that are written one after another there is left: the keys in the
order in which they were first written, each once and bound to what was written under it
last.
-/

namespace PageAtlas

namespace Ordered

variable {κ α : Type}

/-! ## One key written or removed -/

section Laws

variable [DecidableEq κ]

theorem mem_of_find? {m : Ordered κ α} {k : κ} {a : α} (h : find? k m = some a) : (k, a) ∈ m := by
  induction m with
  | nil => cases h
  | cons e m ih =>
      rw [find?] at h
      split at h
      · next hk =>
        cases h
        exact hk ▸ List.mem_cons_self
      · exact List.mem_cons_of_mem e (ih h)

theorem find?_of_mem {m : Ordered κ α} (hnodup : (keys m).Nodup) {k : κ} {a : α}
    (h : (k, a) ∈ m) : find? k m = some a := by
  induction m with
  | nil => cases h
  | cons e m ih =>
      obtain ⟨hnot, hrest⟩ := List.nodup_cons.1 hnodup
      rw [find?]
      rcases List.mem_cons.1 h with rfl | h
      · exact if_pos rfl
      · have hk : e.1 ≠ k := by
          intro hk
          apply hnot
          rw [hk]
          exact List.mem_map_of_mem h
        rw [if_neg hk]
        exact ih hrest h

theorem nodup_keys_insert {m : Ordered κ α} (h : (keys m).Nodup) (k : κ) (a : α) :
    (keys (insert k a m)).Nodup := by
  rw [keys_insert]
  split
  · exact h
  · next hk =>
    rw [List.nodup_append]
    refine ⟨h, List.nodup_singleton k, ?_⟩
    rintro x hx y hy rfl
    rw [List.mem_singleton.1 hy] at hx
    exact hk hx

theorem mem_insert {m : Ordered κ α} {k : κ} {a : α} {e : κ × α} (h : e ∈ insert k a m) :
    e = (k, a) ∨ e ∈ m := by
  induction m with
  | nil => exact Or.inl (List.mem_singleton.1 h)
  | cons e' m ih =>
      rw [insert] at h
      split at h
      · rcases List.mem_cons.1 h with rfl | h
        · exact Or.inl rfl
        · exact Or.inr (List.mem_cons_of_mem e' h)
      · rcases List.mem_cons.1 h with rfl | h
        · exact Or.inr List.mem_cons_self
        · rcases ih h with rfl | h
          · exact Or.inl rfl
          · exact Or.inr (List.mem_cons_of_mem e' h)

theorem keys_erase (k : κ) (m : Ordered κ α) : keys (erase k m) = (keys m).erase k := by
  induction m with
  | nil => rfl
  | cons e m ih =>
      change _ = (e.1 :: keys m).erase k
      by_cases hk : e.1 = k
      · rw [erase, if_pos hk, hk, List.erase_cons_head]
      · rw [erase, if_neg hk, List.erase_cons_tail (by simpa using hk), ← ih]
        rfl

omit [DecidableEq κ] in
theorem mem_keys_iff {m : Ordered κ α} {k : κ} : k ∈ keys m ↔ ∃ a, (k, a) ∈ m := by
  simp [keys]

theorem mem_insert_iff {m : Ordered κ α} (hnodup : (keys m).Nodup) {k k' : κ} {a a' : α} :
    (k', a') ∈ insert k a m ↔ (k = k' ∧ a = a') ∨ (k ≠ k' ∧ (k', a') ∈ m) := by
  have hfind (m : Ordered κ α) (h : (keys m).Nodup) : (k', a') ∈ m ↔ find? k' m = some a' :=
    ⟨find?_of_mem h, mem_of_find?⟩
  rw [hfind _ (nodup_keys_insert hnodup k a), hfind m hnodup]
  by_cases hk : k = k'
  · rw [← hk, find?_insert_self]
    simp
  · rw [find?_insert_ne (Ne.symm hk)]
    simp [hk]

theorem mem_erase_iff {m : Ordered κ α} (hnodup : (keys m).Nodup) {k k' : κ} {a' : α} :
    (k', a') ∈ erase k m ↔ k ≠ k' ∧ (k', a') ∈ m := by
  induction m with
  | nil => simp [erase]
  | cons e m ih =>
      obtain ⟨hnot, hrest⟩ := List.nodup_cons.1 hnodup
      rw [erase]
      by_cases hk : e.1 = k
      · have hne (h : (k', a') ∈ m) : k ≠ k' := by
          rintro rfl
          exact hnot (hk ▸ mem_keys_iff.2 ⟨a', h⟩)
        rw [if_pos hk, List.mem_cons]
        constructor
        · intro h
          exact ⟨hne h, Or.inr h⟩
        · rintro ⟨hk', rfl | h⟩
          · exact absurd hk.symm hk'
          · exact h
      · rw [if_neg hk, List.mem_cons, List.mem_cons, ih hrest]
        constructor
        · rintro (h | ⟨hk', h⟩)
          · refine ⟨?_, Or.inl h⟩
            rintro rfl
            exact hk (congrArg Prod.fst h).symm
          · exact ⟨hk', Or.inr h⟩
        · rintro ⟨hk', h | h⟩
          · exact Or.inl h
          · exact Or.inr ⟨hk', h⟩

theorem erase_insert_of_notMem {m : Ordered κ α} {k : κ} (h : k ∉ keys m) (a : α) :
    erase k (insert k a m) = m := by
  induction m with
  | nil => exact if_pos rfl
  | cons e m ih =>
      obtain ⟨hk, hm⟩ := not_or.1 (mt List.mem_cons.2 h)
      rw [insert, if_neg (Ne.symm hk), erase, if_neg (Ne.symm hk), ih hm]

theorem insert_of_notMem {m : Ordered κ α} {k : κ} (h : k ∉ keys m) (a : α) :
    insert k a m = m ++ [(k, a)] := by
  induction m with
  | nil => rfl
  | cons e m ih =>
      obtain ⟨hk, hm⟩ := not_or.1 (mt List.mem_cons.2 h)
      rw [insert, if_neg (Ne.symm hk), ih hm, List.cons_append]

theorem find?_eq_none_iff {m : Ordered κ α} {k : κ} : find? k m = none ↔ k ∉ keys m := by
  induction m with
  | nil => simp [find?, keys]
  | cons e m ih =>
      rw [find?, keys, List.map_cons, List.mem_cons, not_or, ← keys]
      by_cases hk : e.1 = k
      · simp [hk]
      · rw [if_neg hk, ih]
        simp [Ne.symm hk]

omit [DecidableEq κ] in
theorem keys_concat (m : Ordered κ α) (e : κ × α) : keys (m ++ [e]) = keys m ++ [e.1] :=
  List.map_append

omit [DecidableEq κ] in
theorem nodup_keys_concat {m : Ordered κ α} {e : κ × α} :
    (keys (m ++ [e])).Nodup ↔ (keys m).Nodup ∧ e.1 ∉ keys m := by
  rw [keys_concat, ← List.concat_eq_append, List.nodup_concat, and_comm]

theorem find?_append (m later : Ordered κ α) (k : κ) :
    find? k (m ++ later) = (find? k m).or (find? k later) := by
  induction m with
  | nil => exact Option.none_or.symm
  | cons e m ih =>
      rw [List.cons_append, find?, find?]
      split
      · rfl
      · exact ih

end Laws

/-! ## Overlays -/

section Overlays

variable [DecidableEq κ] {m later : Ordered κ α}

/-- One mapping laid over another: the keys that were there stay where they are, the
further ones follow in their order, and the upper mapping decides what is bound. -/
structure Overlaid (m later all : Ordered κ α) : Prop where
  keys : keys all = keys m ++ (keys later).filter (· ∉ keys m)
  find? (k : κ) : find? k all = (find? k later).or (find? k m)

theorem update_concat (m later : Ordered κ α) (e : κ × α) :
    update m (later ++ [e]) = (update m later).insert e.1 e.2 := List.foldl_concat ..

theorem overlaid_update (h : (keys later).Nodup) : Overlaid m later (update m later) := by
  induction later using List.reverseRecOn with
  | nil => exact ⟨(List.append_nil _).symm, fun k => Option.none_or.symm⟩
  | append_singleton later e ih =>
      obtain ⟨hlater, hnew⟩ := nodup_keys_concat.1 h
      obtain ⟨hkeys, hfind⟩ := ih hlater
      rw [update_concat]
      refine ⟨?_, fun k => ?_⟩
      · rw [keys_insert, hkeys, keys_concat, List.filter_append]
        by_cases hold : e.1 ∈ keys m
        · simp [hold]
        · simp [hold, hnew]
      · rw [find?_append]
        by_cases hk : e.1 = k
        · subst hk
          rw [find?_insert_self, find?_eq_none_iff.2 hnew]
          simp [find?]
        · rw [find?_insert_ne (Ne.symm hk), hfind]
          simp [find?, hk]

theorem mem_update {e : κ × α} (h : e ∈ update m later) : e ∈ m ∨ e ∈ later := by
  induction later using List.reverseRecOn with
  | nil => exact Or.inl h
  | append_singleton later e' ih =>
      rw [update_concat] at h
      rcases mem_insert h with rfl | h
      · exact Or.inr List.mem_concat_self
      · exact (ih h).imp_right (List.mem_append_left _)

theorem nodup_keys_update (hm : (keys m).Nodup) : (keys (update m later)).Nodup := by
  induction later using List.reverseRecOn with
  | nil => exact hm
  | append_singleton later e ih =>
      rw [update_concat]
      exact nodup_keys_insert ih e.1 e.2

end Overlays

/-! ## Entries written one after another -/

/-- The second list holds the keys of the first, each once, in the order in which
they first occur. -/
structure Firsts (ks keys : List κ) : Prop where
  mem (k : κ) : k ∈ keys ↔ k ∈ ks
  order : keys.Pairwise fun k k' => ∃ before after, ks = before ++ after ∧ k ∈ before ∧ k' ∉ before

/-- Under the key this was written, and nothing since. -/
def Last (l : List (κ × α)) (k : κ) (a : α) : Prop :=
  ∃ before after, l = before ++ (k, a) :: after ∧ ∀ e ∈ after, e.1 ≠ k

/-! ## First occurrences -/

namespace Firsts

variable {ks keys keys' : List κ} {k : κ}

theorem nil : Firsts ([] : List κ) [] := ⟨fun _ => Iff.rfl, List.Pairwise.nil⟩

theorem concat_of_mem (h : Firsts ks keys) (hk : k ∈ keys) : Firsts (ks ++ [k]) keys := by
  refine ⟨fun k' => ?_, h.order.imp ?_⟩
  · have hks : k ∈ ks := (h.mem k).1 hk
    rw [h.mem, List.mem_append, List.mem_singleton]
    constructor
    · exact Or.inl
    · rintro (hk' | rfl)
      · exact hk'
      · exact hks
  · rintro a b ⟨before, after, rfl, ha, hb⟩
    exact ⟨before, after ++ [k], List.append_assoc before after [k], ha, hb⟩

theorem concat_of_notMem (h : Firsts ks keys) (hk : k ∉ keys) :
    Firsts (ks ++ [k]) (keys ++ [k]) := by
  refine ⟨fun k' => ?_, List.pairwise_append.2 ⟨h.order.imp ?_, List.pairwise_singleton _ k, ?_⟩⟩
  · rw [List.mem_append, List.mem_append, h.mem]
  · rintro a b ⟨before, after, rfl, ha, hb⟩
    exact ⟨before, after ++ [k], List.append_assoc before after [k], ha, hb⟩
  · intro a ha b hb
    obtain rfl := List.mem_singleton.1 hb
    exact ⟨ks, [b], rfl, (h.mem a).1 ha, fun hb => hk ((h.mem b).2 hb)⟩

theorem nodup (h : Firsts ks keys) : keys.Nodup := by
  refine h.order.imp ?_
  rintro a b ⟨before, after, -, ha, hb⟩ rfl
  exact hb ha

/-- A list without repetitions is in the order of its own first occurrences. -/
theorem of_nodup (h : ks.Nodup) : Firsts ks ks := by
  induction ks using List.reverseRecOn with
  | nil => exact nil
  | append_singleton ks k ih =>
      have hapart := List.nodup_append.1 h
      have hk : k ∉ ks := fun hk => hapart.2.2 k hk k (List.mem_singleton_self k) rfl
      exact (ih hapart.1).concat_of_notMem hk

theorem unique (h : Firsts ks keys) (h' : Firsts ks keys') : keys = keys' := by
  have hperm : keys.Perm keys' := by
    refine (List.perm_ext_iff_of_nodup h.nodup h'.nodup).2 fun k => ?_
    rw [h.mem, h'.mem]
  refine hperm.eq_of_pairwise ?_ h.order h'.order
  -- Of two beginnings of one list the shorter is a beginning of the longer.
  rintro a b - - ⟨before, after, rfl, ha, hb⟩ ⟨before', after', heq, hb', ha'⟩
  rcases List.append_eq_append_iff.1 heq with ⟨more, rfl, -⟩ | ⟨more, rfl, -⟩
  · exact absurd (List.mem_append_left more ha) ha'
  · exact absurd (List.mem_append_left more hb') hb

theorem eq_of_nodup (h : Firsts ks keys) (hks : ks.Nodup) : keys = ks :=
  h.unique (of_nodup hks)

end Firsts

/-! ## Last entries -/

/-- A list is cut at an element behind which all are of a kind: at the last one, or before
it if it is of that kind. -/
theorem splits_concat {β : Type} {P : β → Prop} {l : List β} {x y : β} :
    (∃ before after, l ++ [x] = before ++ y :: after ∧ ∀ z ∈ after, P z) ↔
      x = y ∨ P x ∧ ∃ before after, l = before ++ y :: after ∧ ∀ z ∈ after, P z := by
  constructor
  · rintro ⟨before, after, h, hafter⟩
    rcases List.eq_nil_or_concat after with rfl | ⟨after, z, rfl⟩
    · obtain ⟨-, hx⟩ := List.append_inj' h rfl
      exact Or.inl (List.singleton_inj.1 hx)
    · rw [List.concat_eq_append, ← List.cons_append, ← List.append_assoc] at h
      rw [List.concat_eq_append, List.forall_mem_append] at hafter
      obtain ⟨hl, hx⟩ := List.append_inj' h rfl
      rw [List.singleton_inj.1 hx]
      exact Or.inr ⟨hafter.2 z (List.mem_singleton_self z), before, after, hl, hafter.1⟩
  · rintro (rfl | ⟨hx, before, after, rfl, hafter⟩)
    · exact ⟨l, [], rfl, List.forall_mem_nil _⟩
    · refine ⟨before, after ++ [x], by simp, ?_⟩
      rw [List.forall_mem_append, List.forall_mem_singleton]
      exact ⟨hafter, hx⟩

theorem not_last_nil (k : κ) (a : α) : ¬Last [] k a := by
  rintro ⟨before, after, h, -⟩
  simp at h

theorem last_concat {l : List (κ × α)} {e : κ × α} {k : κ} {a : α} :
    Last (l ++ [e]) k a ↔ e = (k, a) ∨ e.1 ≠ k ∧ Last l k a := splits_concat

/-! ## The mapping that is left -/

variable [DecidableEq κ]

theorem ofList_concat (l : List (κ × α)) (e : κ × α) :
    ofList (l ++ [e]) = (ofList l).insert e.1 e.2 := update_concat [] l e

theorem firsts_keys_ofList (l : List (κ × α)) : Firsts (l.map Prod.fst) (ofList l).keys := by
  induction l using List.reverseRecOn with
  | nil => exact Firsts.nil
  | append_singleton l e ih =>
      rw [ofList_concat, keys_insert, List.map_append]
      split
      next hk => exact ih.concat_of_mem hk
      next hk => exact ih.concat_of_notMem hk

theorem ofList_of_nodup {m : Ordered κ α} (h : (keys m).Nodup) : ofList m = m := by
  induction m using List.reverseRecOn with
  | nil => rfl
  | append_singleton m e ih =>
      obtain ⟨hm, hnew⟩ := nodup_keys_concat.1 h
      rw [ofList_concat, ih hm, insert_of_notMem hnew]

theorem find?_ofList_eq_some_iff {l : List (κ × α)} {k : κ} {a : α} :
    find? k (ofList l) = some a ↔ Last l k a := by
  induction l using List.reverseRecOn with
  | nil => exact iff_of_false (by simp [ofList, update, find?]) (not_last_nil k a)
  | append_singleton l e ih =>
      obtain ⟨k', a'⟩ := e
      rw [ofList_concat, last_concat]
      by_cases hk : k' = k
      · subst hk
        simp [find?_insert_self]
      · have hne : (k', a') ≠ (k, a) := fun h => hk (congrArg Prod.fst h)
        rw [find?_insert_ne (Ne.symm hk), ih]
        simp [hk]

theorem find?_ofList_eq_none_iff {l : List (κ × α)} {k : κ} :
    find? k (ofList l) = none ↔ k ∉ l.map Prod.fst := by
  induction l using List.reverseRecOn with
  | nil => simp [ofList, update, find?]
  | append_singleton l e ih =>
      rw [ofList_concat, List.map_append, List.mem_append]
      by_cases hk : e.1 = k
      · simp [hk, find?_insert_self]
      · rw [find?_insert_ne (Ne.symm hk), ih]
        simp [Ne.symm hk]

end Ordered

end PageAtlas
