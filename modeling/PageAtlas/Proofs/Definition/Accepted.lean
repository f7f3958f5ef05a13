import PageAtlas.Definition.Load
import PageAtlas.Proofs.Text.Blank

/-!
# What a checked definition looks like

A page definition that the check accepts has names and selectors of the checked
form at every depth. So has every definition that is loaded from a file.
-/

namespace PageAtlas

open Text

/-- A text by which a node can be called: not blank, and without the separator. -/
structure Path.Nameable (s : String) : Prop where
  notBlank : allBlank s.toList = false
  notMem : Path.separator ∉ s.toList

theorem Path.Nameable.ne_empty {s : String} (h : Path.Nameable s) : s ≠ "" := by
  rintro rfl
  cases h.notBlank

/-- A declared node with names and selectors of the checked form. -/
inductive NodeDef.Accepted : NodeDef → Prop
  | leaf {l : Leaf} (hname : Path.Nameable l.name) (hselector : Stripped l.selector) :
      Accepted (leaf l)
  | component {h : Header} {nodes : List NodeDef} (hname : Path.Nameable h.name)
      (hselector : h.repeated = true → (nonEmpty? h.selector).isSome = true)
      (hnodes : ∀ nd ∈ nodes, Accepted nd) : Accepted (component h nodes)

structure PageDef.Accepted (p : PageDef) : Prop where
  page : Stripped p.page
  nodes : ∀ nd ∈ p.nodes, nd.Accepted

namespace Check

variable {α : Type} {entries : List (Data × Data)}

/-! ## Single fields -/

theorem nameable_of_name {d : Data} {s : String} (h : name d = .ok s) : Path.Nameable s := by
  rw [name] at h
  cases ht : text d with
  | error c =>
      rw [ht] at h
      cases h
  | ok t =>
      rw [ht] at h
      dsimp only at h
      split at h
      · cases h
      next hblank =>
      split at h
      · cases h
      next hsep =>
      cases h
      exact ⟨by simpa using hblank, by simpa using hsep⟩

theorem stripped_of_trimmed {blank : Complaint} {d : Data} {s : String}
    (h : trimmed blank d = .ok s) : Stripped s := by
  rw [trimmed] at h
  cases ht : text d with
  | error c =>
      rw [ht] at h
      cases h
  | ok t =>
      rw [ht] at h
      dsimp only at h
      split at h
      · cases h
      next hempty =>
      cases h
      exact stripped_of_trim (by simpa using hempty)

theorem exists_of_required {field : String} {check : Data → Except Complaint α} {a : α}
    (h : required field check entries = .ok a) : ∃ d, check d = .ok a := by
  rw [required, Checked.under_eq_ok_iff] at h
  split at h
  · exact absurd h (Checked.complain_ne_ok _ _)
  next d _ =>
  cases hd : check d with
  | error c =>
      rw [hd] at h
      exact absurd h (Checked.complain_ne_ok _ _)
  | ok b =>
      rw [hd] at h
      cases h
      exact ⟨d, hd⟩

theorem nameable_of_common {fields : String × String × Option String}
    (h : common entries = .ok fields) : Path.Nameable fields.1 := by
  obtain ⟨hname, -⟩ := Checked.both_eq_ok_iff.1 h
  obtain ⟨d, hd⟩ := exists_of_required hname
  exact nameable_of_name hd

/-! ## Nodes -/

theorem accepted_of_leaf {repeated : Bool} {nd : NodeDef} (h : leaf repeated entries = .ok nd) :
    nd.Accepted := by
  obtain ⟨⟨⟨name, selectorType, text⟩, selector⟩, hboth, rfl⟩ := Checked.map_eq_ok_iff.1 h
  obtain ⟨hcommon, hselector⟩ := Checked.both_eq_ok_iff.1 hboth
  obtain ⟨d, hd⟩ := exists_of_required hselector
  exact .leaf (nameable_of_common hcommon) (stripped_of_trimmed hd)

theorem nameable_of_header {header : Header} (h : Check.header entries = .ok header) :
    Path.Nameable header.name := by
  obtain ⟨⟨⟨name, selectorType, text⟩, selector, repeated⟩, hboth, rfl⟩ :=
    Checked.map_eq_ok_iff.1 h
  obtain ⟨hcommon, -⟩ := Checked.both_eq_ok_iff.1 hboth
  exact nameable_of_common hcommon

theorem accepted_of_assemble {nodes : Checked Issue (List NodeDef)} {nd : NodeDef}
    (h : assemble (Checked.both (header entries) nodes) = .ok nd)
    (hnodes : ∀ nds, nodes = .ok nds → ∀ nd ∈ nds, nd.Accepted) : nd.Accepted := by
  unfold assemble at h
  split at h
  · cases h
  next header nds hparts =>
  obtain ⟨hheader, hnds⟩ := Checked.both_eq_ok_iff.1 hparts
  split at h
  · exact absurd h (Checked.complain_ne_ok _ _)
  next hcond =>
  cases h
  refine .component (nameable_of_header hheader) ?_ (hnodes nds hnds)
  intro hrepeated
  rw [hrepeated, Bool.true_and, Option.isNone_iff_eq_none] at hcond
  exact Option.isSome_iff_ne_none.2 hcond

-- The functions of the check call each other along the data, and so do the proofs.

mutual

theorem accepted_of_node (d : Data) {nd : NodeDef} (h : node d = .ok nd) : nd.Accepted := by
  cases d with
  | table entries =>
      rw [node] at h
      split at h
      · exact absurd h (Checked.complain_ne_ok _ _)
      next t _ =>
      rw [Checked.under_eq_ok_iff] at h
      cases t with
      | element => exact accepted_of_leaf h
      | collection => exact accepted_of_leaf h
      | component =>
          exact accepted_of_assemble h fun nds hnds => accepted_of_nodesField entries hnds
  | _ => exact absurd h (Checked.complain_ne_ok _ _)

theorem accepted_of_nodesField (entries : List (Data × Data)) {nds : List NodeDef}
    (h : nodesField entries = .ok nds) : ∀ nd ∈ nds, nd.Accepted := by
  match entries with
  | [] =>
      rw [nodesField] at h
      cases h
      intro nd hnd
      cases hnd
  | (k, v) :: es =>
      cases k with
      | text k =>
          rw [nodesField] at h
          split at h
          · rw [Checked.under_eq_ok_iff] at h
            exact accepted_of_nodeList v h
          · exact accepted_of_nodesField es h
      | _ => exact accepted_of_nodesField es h

theorem accepted_of_nodeList (d : Data) {nds : List NodeDef} (h : nodeList d = .ok nds) :
    ∀ nd ∈ nds, nd.Accepted := by
  cases d with
  | list items => exact accepted_of_nodes items h
  | set items => exact accepted_of_nodes items h
  | pair a b =>
      obtain ⟨⟨x, y⟩, hboth, rfl⟩ := Checked.map_eq_ok_iff.1 h
      obtain ⟨hx, hy⟩ := Checked.both_eq_ok_iff.1 hboth
      intro nd hnd
      rcases List.mem_cons.1 hnd with rfl | hnd
      · exact accepted_of_node a (Checked.under_eq_ok_iff.1 hx)
      · rw [List.mem_singleton.1 hnd]
        exact accepted_of_node b (Checked.under_eq_ok_iff.1 hy)
  | _ => exact absurd h (Checked.complain_ne_ok _ _)

theorem accepted_of_nodes (items : List Data) {place : Nat} {nds : List NodeDef}
    (h : nodes place items = .ok nds) : ∀ nd ∈ nds, nd.Accepted := by
  match items with
  | [] =>
      cases h
      intro nd hnd
      cases hnd
  | d :: items =>
      obtain ⟨⟨n, ns⟩, hboth, rfl⟩ := Checked.map_eq_ok_iff.1 h
      obtain ⟨hn, hns⟩ := Checked.both_eq_ok_iff.1 hboth
      intro nd hnd
      rcases List.mem_cons.1 hnd with rfl | hnd
      · exact accepted_of_node d (Checked.under_eq_ok_iff.1 hn)
      · exact accepted_of_nodes items hns nd hnd

end

/-! ## Pages -/

theorem accepted_of_page {p : PageDef} (h : page entries = .ok p) : p.Accepted := by
  obtain ⟨⟨version, name, description, nds⟩, hboth, rfl⟩ := Checked.map_eq_ok_iff.1 h
  obtain ⟨-, hrest⟩ := Checked.both_eq_ok_iff.1 hboth
  obtain ⟨hpage, hrest⟩ := Checked.both_eq_ok_iff.1 hrest
  obtain ⟨-, hnodes⟩ := Checked.both_eq_ok_iff.1 hrest
  obtain ⟨d, hd⟩ := exists_of_required hpage
  exact ⟨stripped_of_trimmed hd, accepted_of_nodesField entries hnodes⟩

end Check

namespace PageDef

variable {env : Environment} {file : String}

theorem accepted_of_ofDocument {place : Nat} {doc : Data} {p : PageDef}
    (h : ofDocument env file place doc = .ok p) : p.Accepted := by
  rw [ofDocument] at h
  split at h
  · next entries _ =>
    cases hpage : Check.page entries with
    | error issues =>
        rw [hpage] at h
        cases h
    | ok p' =>
        rw [hpage] at h
        cases h
        exact Check.accepted_of_page hpage
  · cases h

theorem accepted_of_ofDocumentsFrom {place : Nat} {docs : List Data} {ps : List PageDef}
    (h : ofDocumentsFrom env file place docs = .ok ps) : ∀ p ∈ ps, p.Accepted := by
  fun_induction ofDocumentsFrom env file place docs generalizing ps with
  | case1 =>
      cases h
      intro p hp
      cases hp
  | case2 place docs ih => exact ih h
  | case3 place doc docs hdoc e he => cases h
  | case4 place doc docs hdoc p he e hrest ih => cases h
  | case5 place doc docs hdoc p he ps' hrest ih =>
      cases h
      intro q hq
      rcases List.mem_cons.1 hq with rfl | hq
      · exact accepted_of_ofDocument he
      · exact ih hrest q hq

theorem accepted_of_load {source : Source} {ps : List PageDef}
    (h : load env file source = .ok ps) : ∀ p ∈ ps, p.Accepted := by
  rw [load] at h
  split at h
  · cases h
  next docs _ =>
  split at h
  · next finite _ =>
    rw [ofDocuments] at h
    split at h
    · cases h
    · exact accepted_of_ofDocumentsFrom h
  · next finite isTable _ =>
    -- A document that contains itself is refused after those before it.
    split at h
    · cases h
    · split at h <;> cases h

end PageDef

end PageAtlas
