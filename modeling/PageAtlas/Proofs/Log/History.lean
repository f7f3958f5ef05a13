import PageAtlas.Log.State
import PageAtlas.Proofs.Ordered

/-!
# What a history of bindings leaves bound

A name is bound to what it was bound to last, unless it has been unbound since,
and names stand in the order in which they have come to be bound. Both can be
read off the history alone, and only one mapping has them.
-/

namespace PageAtlas

inductive Binding where
  | bound (name : String) (value : Json)
  | unbound (name : String)

namespace Binding

def name : Binding → String
  | bound name _ => name
  | unbound name => name

def apply (c : LogContext) : Binding → LogContext
  | bound name value => c.insert name value
  | unbound name => c.erase name

/-- The name was bound to the value, and nothing has been done to it since. -/
def Holds (history : List Binding) (name : String) (value : Json) : Prop :=
  ∃ before after, history = before ++ bound name value :: after ∧ ∀ b ∈ after, b.name ≠ name

def IsBound (history : List Binding) (name : String) : Prop := ∃ value, Holds history name value

/-- At some moment the one name was bound and the other was not, and the one has
not been unbound since. -/
def Before (history : List Binding) (a b : String) : Prop :=
  ∃ past since, history = past ++ since ∧ IsBound past a ∧ ¬IsBound past b ∧
    ∀ s ∈ since, s ≠ unbound a

/-- The mapping binds what holds, in the order in which the names came to be bound. -/
structure Describes (history : List Binding) (m : LogContext) : Prop where
  mem (name : String) (value : Json) : (name, value) ∈ m ↔ Holds history name value
  order : m.keys.Pairwise (Before history)

/-! ## One more binding -/

theorem not_holds_nil (name : String) (value : Json) : ¬Holds [] name value := by
  rintro ⟨before, after, h, -⟩
  simp at h

theorem holds_concat {history : List Binding} {s : Binding} {name : String} {value : Json} :
    Holds (history ++ [s]) name value ↔
      s = bound name value ∨ s.name ≠ name ∧ Holds history name value := Ordered.splits_concat

theorem Before.concat {history : List Binding} {s : Binding} {a b : String}
    (h : Before history a b) (hs : s ≠ unbound a) : Before (history ++ [s]) a b := by
  obtain ⟨past, since, rfl, ha, hb, hsince⟩ := h
  refine ⟨past, since ++ [s], List.append_assoc past since [s], ha, hb, ?_⟩
  intro t ht
  rcases List.mem_append.1 ht with ht | ht
  · exact hsince t ht
  · rwa [List.mem_singleton.1 ht]

theorem IsBound.append {history : List Binding} {name : String} (h : IsBound history name) :
    ∀ since : List Binding, (∀ s ∈ since, s ≠ unbound name) → IsBound (history ++ since) name := by
  intro since
  induction since using List.reverseRecOn with
  | nil =>
      intro _
      rwa [List.append_nil]
  | append_singleton since s ih =>
      intro hsince
      obtain ⟨value, hvalue⟩ := ih fun t ht => hsince t (List.mem_append_left [s] ht)
      rw [← List.append_assoc]
      by_cases hs : s.name = name
      · cases s with
        | bound n v =>
            obtain rfl : n = name := hs
            exact ⟨v, holds_concat.2 (Or.inl rfl)⟩
        | unbound n =>
            obtain rfl : n = name := hs
            exact absurd rfl (hsince (unbound n) (by simp))
      · exact ⟨value, holds_concat.2 (Or.inr ⟨hs, hvalue⟩)⟩

theorem Before.asymm {history : List Binding} {a b : String} (h : Before history a b) :
    ¬Before history b a := by
  rintro ⟨past', since', h', hb', ha', hsince'⟩
  obtain ⟨past, since, rfl, ha, hb, hsince⟩ := h
  -- At the later of the two moments the name is still bound that was bound at the earlier one.
  rcases List.append_eq_append_iff.1 h' with ⟨more, rfl, rfl⟩ | ⟨more, rfl, rfl⟩
  · exact ha' (ha.append more fun s hs => hsince s (List.mem_append_left since' hs))
  · exact hb (hb'.append more fun s hs => hsince' s (List.mem_append_left since hs))

namespace Describes

variable {history : List Binding} {m m' : LogContext}

theorem nodup (h : Describes history m) : m.keys.Nodup := by
  refine h.order.imp ?_
  rintro a b hab rfl
  exact hab.asymm hab

theorem mem_keys (h : Describes history m) {name : String} :
    name ∈ m.keys ↔ IsBound history name := by
  rw [Ordered.mem_keys_iff]
  exact exists_congr fun value => h.mem name value

theorem nil : Describes [] [] := by
  refine ⟨fun name value => ?_, List.Pairwise.nil⟩
  simp only [List.not_mem_nil, false_iff]
  exact not_holds_nil name value

theorem bound (h : Describes history m) (name : String) (value : Json) :
    Describes (history ++ [.bound name value]) (m.insert name value) := by
  have hkept : m.keys.Pairwise (Before (history ++ [.bound name value])) :=
    h.order.imp fun hab => hab.concat (by simp)
  refine ⟨fun n v => ?_, ?_⟩
  · rw [holds_concat, Ordered.mem_insert_iff h.nodup, h.mem, Binding.bound.injEq]
    rfl
  · rw [Ordered.keys_insert]
    split
    · exact hkept
    · next hname =>
      refine List.pairwise_append.2 ⟨hkept, List.pairwise_singleton _ _, ?_⟩
      intro a ha b hb
      obtain rfl := List.mem_singleton.1 hb
      have hbefore : Before history a b :=
        ⟨history, [], (List.append_nil history).symm, h.mem_keys.1 ha,
          fun hb => hname (h.mem_keys.2 hb), by simp⟩
      exact hbefore.concat (by simp)

theorem unbound (h : Describes history m) (name : String) :
    Describes (history ++ [.unbound name]) (m.erase name) := by
  refine ⟨fun n v => ?_, ?_⟩
  · rw [holds_concat, Ordered.mem_erase_iff h.nodup, h.mem]
    simp [Binding.name]
  · rw [Ordered.keys_erase]
    refine (h.order.sublist List.erase_sublist).imp_of_mem ?_
    intro a b ha _ hab
    have hne : a ≠ name := ((h.nodup.mem_erase_iff).1 ha).1
    exact hab.concat fun hs => hne (Binding.unbound.inj hs).symm

theorem apply (h : Describes history m) (s : Binding) :
    Describes (history ++ [s]) (s.apply m) := by
  cases s with
  | bound name value => exact h.bound name value
  | unbound name => exact h.unbound name

theorem foldl_apply (h : Describes history m) (bs : List Binding) :
    Describes (history ++ bs) (bs.foldl Binding.apply m) := by
  induction bs generalizing history m with
  | nil => rwa [List.append_nil]
  | cons s bs ih =>
      have happly := ih (h.apply s)
      rwa [List.append_assoc] at happly

/-- No other mapping is described by the history. -/
theorem unique (h : Describes history m) (h' : Describes history m') : m = m' := by
  have hpairwise {m : LogContext} (h : Describes history m) :
      m.Pairwise fun e e' => Before history e.1 e'.1 := List.pairwise_map.1 h.order
  have hperm : m.Perm m' := by
    refine (List.perm_ext_iff_of_nodup h.nodup.of_map h'.nodup.of_map).2 ?_
    rintro ⟨name, value⟩
    rw [h.mem, h'.mem]
  refine hperm.eq_of_pairwise ?_ (hpairwise h) (hpairwise h')
  intro e e' _ _ hbefore hafter
  exact absurd hafter hbefore.asymm

end Describes

/-! ## Binding and unbinding several names -/

def ofValues (values : LogContext) : List Binding := values.map fun e => bound e.1 e.2

theorem update_eq_foldl (c values : LogContext) :
    c.update values = (ofValues values).foldl apply c := by
  rw [ofValues, List.foldl_map]
  rfl

theorem foldl_erase_eq_foldl (c : LogContext) (names : List String) :
    names.foldl (fun c n => c.erase n) c = (names.map unbound).foldl apply c := by
  rw [List.foldl_map]
  rfl

theorem Describes.update {history : List Binding} {m : LogContext} (h : Describes history m)
    (values : LogContext) : Describes (history ++ ofValues values) (m.update values) := by
  rw [update_eq_foldl]
  exact h.foldl_apply (ofValues values)

end Binding

end PageAtlas
