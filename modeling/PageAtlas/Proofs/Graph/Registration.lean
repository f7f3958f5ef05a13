import PageAtlas.Proofs.Graph.Store
import PageAtlas.Proofs.Ordered

/-!
# Registrations one after another

Elements, collections and components are registered on the components of a store in
any order. A component binds each key to what was registered under it last, and its
keys stand in the order in which they were first registered. What is refused leaves
everything as it is, and a component that is registered keeps its own alias.
-/

namespace PageAtlas

/-- What is registered: an element or a collection under its alias, or a component
under the alias that is given. -/
inductive Entry where
  | leaf (l : Leaf)
  | component (child : Nat) (given : Option String)

structure Registration where
  on : Nat
  entry : Entry

/-- Each key leads to what was written under it last, no other key leads anywhere, and
the children are the keys in the order in which they were first written, each with
what it leads to. -/
structure Component.Binds (c : Component Nat) (l : List (String × Node Nat)) : Prop where
  lookup (key : String) (n : Node Nat) : c.lookup key = .ok n ↔ Ordered.Last l key n
  missing (key : String) (e : Failure) :
    c.lookup key = .error e ↔ key ∉ l.map Prod.fst ∧ e = .aliasNotFound key c.name
  order : Ordered.Firsts (l.map Prod.fst) c.children.keys
  children (key : String) (n : Node Nat) : (key, n) ∈ c.children ↔ c.lookup key = .ok n

namespace Entry

/-- The key of an entry and its node. A component has the given alias as its key, and
its own if none is given; an empty alias counts as none. -/
inductive Keyed (s : Store) : Entry → String → Node Nat → Prop
  | leaf (l : Leaf) : Keyed s (leaf l) l.name (.leaf l)
  | given {child : Nat} {key : String} (hkey : key ≠ "") :
      Keyed s (component child (some key)) key (.component child)
  | own {child : Nat} {given : Option String} {key : String}
      (hgiven : given = none ∨ given = some "")
      (hname : (s.graph.component child).name = some key) (hkey : key ≠ "") :
      Keyed s (component child given) key (.component child)

/-- What a component is told to bind by an entry, if that has a key. -/
def write? (s : Store) : Entry → Option (String × Node Nat)
  | leaf l => some (l.name, .leaf l)
  | component child given =>
      (Component.mountKey? given (s.graph.component child).name).map (·, .component child)

end Entry

namespace Store

def register (s : Store) (r : Registration) : Except BuildFault Store :=
  match r.entry with
  | .leaf l => .ok (s.defineLeaf r.on l)
  | .component child given => s.mount r.on child given

/-- A registration that is refused leaves the store as it is. -/
def step (s : Store) (r : Registration) : Store :=
  match s.register r with
  | .ok s' => s'
  | .error _ => s

def run (s : Store) (rs : List Registration) : Store := rs.foldl step s

def writes (s : Store) (on : Nat) (r : Registration) : List (String × Node Nat) :=
  if r.on = on then (r.entry.write? s).toList else []

/-- What registrations bind on a component, one after another; those that are refused
bind nothing. -/
def history (s : Store) (on : Nat) (rs : List Registration) : List (String × Node Nat) :=
  rs.flatMap (s.writes on)

end Store

/-! ## Keys -/

theorem Component.mountKey?_eq_some_iff {given own : Option String} {key : String} :
    mountKey? given own = some key ↔
      key ≠ "" ∧ (given = some key ∨ (given = none ∨ given = some "") ∧ own = some key) := by
  have hown : nonEmpty? own = some key ↔ key ≠ "" ∧ own = some key := by
    cases own with
    | none => simp [nonEmpty?]
    | some a => by_cases ha : a = "" <;> grind [nonEmpty?]
  cases given with
  | none => simpa [mountKey?, nonEmpty?] using hown
  | some a => by_cases ha : a = "" <;> grind [mountKey?, nonEmpty?]

theorem Entry.write?_eq_some_iff {s : Store} {e : Entry} {key : String} {n : Node Nat} :
    e.write? s = some (key, n) ↔ e.Keyed s key n := by
  cases e with
  | leaf l =>
      rw [write?]
      constructor
      · intro h
        cases h
        exact .leaf l
      · intro h
        cases h
        rfl
  | component child given =>
      rw [write?]
      constructor
      · intro h
        obtain ⟨key', hkey, heq⟩ := Option.map_eq_some_iff.1 h
        cases heq
        obtain ⟨hne, rfl | ⟨hgiven, hown⟩⟩ := Component.mountKey?_eq_some_iff.1 hkey
        · exact .given hne
        · exact .own hgiven hown hne
      · intro h
        refine Option.map_eq_some_iff.2 ⟨key, Component.mountKey?_eq_some_iff.2 ?_, ?_⟩
        · cases h with
          | given hkey => exact ⟨hkey, Or.inl rfl⟩
          | own hgiven hname hkey => exact ⟨hkey, Or.inr ⟨hgiven, hname⟩⟩
        · cases h <;> rfl

theorem Component.binds_ofList {c : Component Nat} {l : List (String × Node Nat)}
    (h : c.children = Ordered.ofList l) : c.Binds l := by
  have hlookup (key : String) (n : Node Nat) :
      c.lookup key = .ok n ↔ c.children.find? key = some n := by
    rw [Component.lookup]
    cases c.children.find? key <;> simp
  have hmissing (key : String) (e : Failure) : c.lookup key = .error e ↔
      c.children.find? key = none ∧ e = .aliasNotFound key c.name := by
    rw [Component.lookup]
    cases c.children.find? key <;> simp [eq_comm]
  have horder := Ordered.firsts_keys_ofList l
  rw [← h] at horder
  refine ⟨fun key n => ?_, fun key e => ?_, horder, fun key n => ?_⟩
  · rw [hlookup, h, Ordered.find?_ofList_eq_some_iff]
  · rw [hmissing, h, Ordered.find?_ofList_eq_none_iff]
  · rw [hlookup]
    exact ⟨Ordered.find?_of_mem horder.nodup, Ordered.mem_of_find?⟩

namespace Store

variable {s : Store}

/-! ## One registration -/

theorem component_set_self {r : Nat} (hr : r < s.components.length) (c : Component Nat) :
    (s.set r c).graph.component r = c := by
  change (s.components.set r c).getD r {} = c
  rw [List.getD_eq_getElem?_getD, List.getElem?_set_self hr]
  rfl

theorem component_set_ne {on r : Nat} (h : on ≠ r) (c : Component Nat) :
    (s.set on c).graph.component r = s.graph.component r := by
  change (s.components.set on c).getD r {} = s.components.getD r {}
  rw [List.getD_eq_getElem?_getD, List.getElem?_set_ne h, List.getD_eq_getElem?_getD]

theorem register_of_write? {r : Registration} {key : String} {n : Node Nat}
    (h : r.entry.write? s = some (key, n)) :
    s.register r = .ok (s.set r.on
      { s.graph.component r.on with
        children := (s.graph.component r.on).children.insert key n }) := by
  obtain ⟨on, entry⟩ := r
  cases entry with
  | leaf l =>
      cases h
      rfl
  | component child given =>
      obtain ⟨key', hkey, heq⟩ := Option.map_eq_some_iff.1 h
      cases heq
      change s.mount on child given = _
      rw [mount, Component.mount, hkey]

theorem register_of_write?_eq_none {r : Registration} (h : r.entry.write? s = none) :
    s.register r = .error .noAlias := by
  obtain ⟨on, entry⟩ := r
  cases entry with
  | leaf l => cases h
  | component child given =>
      have hkey := Option.map_eq_none_iff.1 h
      change s.mount on child given = _
      rw [mount, Component.mount, hkey]

/-- A registration binds what it is told to on its component, and changes nothing else. -/
theorem step_eq (s : Store) (r : Registration) :
    s.step r =
      match r.entry.write? s with
      | some (key, n) => s.set r.on
          { s.graph.component r.on with
            children := (s.graph.component r.on).children.insert key n }
      | none => s := by
  rw [step]
  cases h : r.entry.write? s with
  | none => rw [register_of_write?_eq_none h]
  | some e => rw [register_of_write? h]

theorem length_step (s : Store) (r : Registration) :
    (s.step r).components.length = s.components.length := by
  rw [step_eq]
  split
  · exact List.length_set
  · rfl

theorem component_step_ne {r : Registration} {on : Nat} (h : r.on ≠ on) :
    (s.step r).graph.component on = s.graph.component on := by
  rw [step_eq]
  split
  · exact component_set_ne h _
  · rfl

theorem component_step {on : Nat} (hon : on < s.components.length) (r : Registration) :
    (s.step r).graph.component on =
      { s.graph.component on with
        children := (s.graph.component on).children.update (s.writes on r) } := by
  by_cases h : r.on = on
  · subst h
    rw [writes, if_pos rfl, step_eq]
    cases r.entry.write? s with
    | none => rfl
    | some e => exact component_set_self hon _
  · rw [writes, if_neg h, component_step_ne h]
    rfl

theorem name_step (s : Store) (r : Registration) (on : Nat) :
    ((s.step r).graph.component on).name = (s.graph.component on).name := by
  by_cases hon : on < s.components.length
  · rw [component_step hon]
  · have hnone : ∀ t : Store, t.components.length = s.components.length →
        t.graph.component on = {} := by
      intro t ht
      change t.components.getD on {} = {}
      rw [List.getD_eq_getElem?_getD, List.getElem?_eq_none (by omega)]
      rfl
    rw [hnone _ (length_step s r), hnone s rfl]

theorem write?_step (s : Store) (r : Registration) (e : Entry) :
    e.write? (s.step r) = e.write? s := by
  cases e with
  | leaf l => rfl
  | component child given => rw [Entry.write?, Entry.write?, name_step]

/-! ## A run -/

theorem run_concat (s : Store) (rs : List Registration) (r : Registration) :
    s.run (rs ++ [r]) = (s.run rs).step r := List.foldl_concat ..

theorem history_concat (s : Store) (on : Nat) (rs : List Registration) (r : Registration) :
    s.history on (rs ++ [r]) = s.history on rs ++ s.writes on r := by
  simp [history]

theorem length_run (s : Store) (rs : List Registration) :
    (s.run rs).components.length = s.components.length := by
  induction rs using List.reverseRecOn with
  | nil => rfl
  | append_singleton rs r ih => rw [run_concat, length_step, ih]

theorem name_run (s : Store) (rs : List Registration) (on : Nat) :
    ((s.run rs).graph.component on).name = (s.graph.component on).name := by
  induction rs using List.reverseRecOn with
  | nil => rfl
  | append_singleton rs r ih => rw [run_concat, name_step, ih]

theorem write?_run (s : Store) (rs : List Registration) (e : Entry) :
    e.write? (s.run rs) = e.write? s := by
  induction rs using List.reverseRecOn with
  | nil => rfl
  | append_singleton rs r ih => rw [run_concat, write?_step, ih]

theorem component_run {on : Nat} (hon : on < s.components.length) (rs : List Registration) :
    (s.run rs).graph.component on =
      { s.graph.component on with
        children := (s.graph.component on).children.update (s.history on rs) } := by
  induction rs using List.reverseRecOn with
  | nil => rfl
  | append_singleton rs r ih =>
      have hwrites : (s.run rs).writes on r = s.writes on r := by
        rw [writes, writes, write?_run]
      rw [run_concat, component_step (length_run s rs ▸ hon), hwrites, ih, history_concat]
      simp [Ordered.update]

theorem mem_writes {on : Nat} {r : Registration} {key : String} {n : Node Nat} :
    (key, n) ∈ s.writes on r ↔ r.on = on ∧ r.entry.Keyed s key n := by
  rw [writes]
  split
  next hon => simp [Option.mem_toList, Entry.write?_eq_some_iff, hon]
  next hon => simp [hon]

theorem register_run_eq_ok_iff (rs : List Registration) {r : Registration} :
    (∃ t, (s.run rs).register r = .ok t) ↔ ∃ key n, r.entry.Keyed s key n := by
  have hwrite := write?_run s rs r.entry
  cases h : r.entry.write? s with
  | none =>
      rw [register_of_write?_eq_none (hwrite.trans h)]
      refine iff_of_false (by simp) ?_
      rintro ⟨key, n, hkeyed⟩
      rw [Entry.write?_eq_some_iff.2 hkeyed] at h
      cases h
  | some e =>
      rw [register_of_write? (hwrite.trans h)]
      exact iff_of_true ⟨_, rfl⟩ ⟨_, _, Entry.write?_eq_some_iff.1 h⟩

theorem register_eq_error {r : Registration} {e : BuildFault} (h : s.register r = .error e) :
    e = .noAlias := by
  cases hwrite : r.entry.write? s with
  | none =>
      rw [register_of_write?_eq_none hwrite] at h
      cases h
      rfl
  | some _ =>
      rw [register_of_write? hwrite] at h
      cases h

/-- However often anything is registered, a component binds each key to what was
registered under it last, in the order of first registration. Exactly what has no key is
refused, and leaves everything as it is. All components keep their aliases, and one that
is registered on another keeps its children. -/
theorem run_registers {on : Nat} (hon : on < s.components.length)
    (hbare : (s.graph.component on).children = []) (rs : List Registration) :
    ((s.run rs).graph.component on).Binds (s.history on rs) ∧
    (∀ r key n, (key, n) ∈ s.writes on r ↔ r.on = on ∧ r.entry.Keyed s key n) ∧
    (∀ r, (∃ t, (s.run rs).register r = .ok t) ↔ ∃ key n, r.entry.Keyed s key n) ∧
    (∀ r e, (s.run rs).register r = .error e → e = .noAlias ∧ (s.run rs).step r = s.run rs) ∧
    ∀ child, ((s.run rs).graph.component child).name = (s.graph.component child).name ∧
      ∀ r, r.on ≠ child →
        ((s.run rs).step r).graph.component child = (s.run rs).graph.component child := by
  refine ⟨?_, fun r key n => mem_writes, fun r => register_run_eq_ok_iff rs, ?_, ?_⟩
  · apply Component.binds_ofList
    rw [component_run hon, hbare]
    rfl
  · intro r e h
    refine ⟨register_eq_error h, ?_⟩
    rw [step, h]
  · intro child
    exact ⟨name_run s rs child, fun r hr => component_step_ne hr⟩

def unnamedPart : Store := ⟨[{ name := some "Page" }, { name := some "Part" }, {}]⟩

/-- The key of the first element is taken over by a component and then by a collection;
the component without an alias is refused. -/
def takeover : List Registration :=
  [⟨0, .leaf { name := "Part", selector := "a" }⟩, ⟨0, .leaf { name := "Save", selector := "b" }⟩,
    ⟨0, .component 1 (some "")⟩, ⟨0, .component 2 none⟩, ⟨0, .component 1 (some "Extra")⟩,
    ⟨0, .leaf { name := "Save", selector := "li", repeated := true }⟩]

theorem run_registers_takeover :
    let t := unnamedPart.run takeover
    Ordered.Firsts ["Part", "Save", "Part", "Extra", "Save"] ["Part", "Save", "Extra"] ∧
    (t.graph.component 0).lookup "Part" = .ok (.component 1) ∧
    (t.graph.component 0).lookup "Gone" = .error (.aliasNotFound "Gone" (some "Page")) ∧
    t.step ⟨0, .component 2 none⟩ = t ∧
    (t.graph.component 1).name = some "Part" := by
  intro t
  have hon : 0 < unnamedPart.components.length := by decide
  obtain ⟨hbinds, -, -, hrefused, hkept⟩ := run_registers hon rfl takeover
  have hpart : Ordered.Last (unnamedPart.history 0 takeover) "Part" (.component 1) :=
    ⟨_ :: [_], _ :: [_], rfl, by decide⟩
  exact ⟨hbinds.order, (hbinds.lookup _ _).2 hpart, (hbinds.missing _ _).2 ⟨by decide, rfl⟩,
    (hrefused _ .noAlias rfl).2, (hkept 1).1⟩

/-- A component that is registered on itself has itself as a new child. -/
theorem not_children_kept_on_itself :
    ¬∀ (s : Store) (on child : Nat) (key : String),
      ((s.step ⟨on, .component child (some key)⟩).graph.component child).children =
        (s.graph.component child).children := by
  intro h
  have hmenu := h ⟨[{ name := some "Menu" }]⟩ 0 0 "Sub"
  revert hmenu
  decide

end Store

end PageAtlas
