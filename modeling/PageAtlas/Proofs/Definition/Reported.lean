import PageAtlas.Definition.Load
import PageAtlas.Proofs.Definition.Issues

/-!
# Where issues are reported

Each list of nodes in a definition stands at a location, however deep it lies.
Below this location the report of the whole definition shows what is wrong with
the entries of the list, each by itself and in their order, and nothing else.
-/

namespace PageAtlas

namespace Issue

def below (loc : List Segment) (i : Issue) : Issue := { i with location := loc ++ i.location }

def within (loc : List Segment) (is : List Issue) : List Issue :=
  is.filter fun i => loc.isPrefixOf i.location

variable {s s' : Segment} {loc : List Segment}

theorem within_nil (is : List Issue) : within [] is = is := by
  simp [within]

theorem within_append (loc : List Segment) (is is' : List Issue) :
    within loc (is ++ is') = within loc is ++ within loc is' := by
  rw [within, List.filter_append, within, within]

theorem within_map_under (s : Segment) (loc : List Segment) (is : List Issue) :
    within (s :: loc) (is.map (under s)) = (within loc is).map (under s) := by
  rw [within, List.filter_map, within]
  congr 2
  funext i
  simp [under]

theorem within_map_under_ne (h : s ≠ s') (loc : List Segment) (is : List Issue) :
    within (s :: loc) (is.map (under s')) = [] := by
  rw [within, List.filter_eq_nil_iff]
  intro i hi
  obtain ⟨i, -, rfl⟩ := List.mem_map.1 hi
  simp [under, h]

theorem map_below_cons (s : Segment) (loc : List Segment) (is : List Issue) :
    is.map (below (s :: loc)) = (is.map (below loc)).map (under s) := by
  rw [List.map_map]
  rfl

theorem exists_within_iff {is : List Issue} :
    (∃ e ∈ is, loc <+: e.location) ↔ within loc is ≠ [] := by
  rw [within, Ne, List.filter_eq_nil_iff]
  simp

end Issue

open Issue

namespace Check

variable {members : List (String × Json)}

/-! ## Lists -/

theorem issues_nodes (place : Nat) (ds : List Data) :
    Checked.issues (nodes place ds) = (ds.zipIdx place).flatMap fun p =>
      (Checked.issues (node p.1)).map (under (.place p.2)) := by
  induction ds generalizing place with
  | nil => rfl
  | cons d ds ih =>
      rw [nodes, Checked.issues_map, Checked.issues_both, Checked.issues_under, ih,
        List.zipIdx_cons, List.flatMap_cons]

/-- Entries are apart: below a place there are the issues of the entry at that place. -/
theorem within_nodes (place i : Nat) (ds : List Data) (loc : List Segment) :
    within (.place (place + i) :: loc) (Checked.issues (nodes place ds)) =
      ((ds[i]?.map fun d => within loc (Checked.issues (node d))).getD []).map
        (under (.place (place + i))) := by
  induction ds generalizing place i with
  | nil => rfl
  | cons d ds ih =>
      rw [nodes, Checked.issues_map, Checked.issues_both, Checked.issues_under, within_append]
      cases i with
      | zero =>
          -- The places that follow are greater.
          have hrest : within (.place (place + 0) :: loc)
              (Checked.issues (nodes (place + 1) ds)) = [] := by
            rw [issues_nodes, within, List.filter_eq_nil_iff]
            intro e he
            obtain ⟨⟨d', k⟩, hk, he⟩ := List.mem_flatMap.1 he
            obtain ⟨e', -, rfl⟩ := List.mem_map.1 he
            have hle := List.le_snd_of_mem_zipIdx hk
            have hne : place ≠ k := by omega
            simp [under, hne]
          rw [hrest, List.append_nil]
          exact within_map_under _ _ _
      | succ i =>
          have hne : Segment.place (place + (i + 1)) ≠ .place place := by
            rw [Ne, Segment.place.injEq]
            omega
          rw [within_map_under_ne hne, List.nil_append, List.getElem?_cons_succ,
            show place + (i + 1) = place + 1 + i by omega]
          exact ih (place + 1) i

theorem ofJsonAll_eq_map (items : List Json) : Data.ofJsonAll items = items.map Data.ofJson := by
  induction items with
  | nil => rfl
  | cons j items ih => rw [Data.ofJsonAll, ih, List.map_cons]

/-! ## Fields -/

section Fields

variable {α : Type} {name field : String} (h : Segment.name name ≠ .name field)
  (loc : List Segment) (check : Data → Except Complaint α) (entries : List (Data × Data))

include h

theorem within_required :
    within (.name name :: loc) (Checked.issues (required field check entries)) = [] := by
  rw [required, Checked.issues_under]
  exact within_map_under_ne h loc _

theorem within_optional (default : α) :
    within (.name name :: loc) (Checked.issues (optional field default check entries)) = [] := by
  rw [optional, Checked.issues_under]
  exact within_map_under_ne h loc _

end Fields

theorem within_header (loc : List Segment) (entries : List (Data × Data)) :
    within (.name "nodes" :: loc) (Checked.issues (header entries)) = [] := by
  simp only [header, common, Checked.issues_map, Checked.issues_both, within_append]
  rw [within_required (by decide), within_optional (by decide), within_optional (by decide),
    within_optional (by decide), within_optional (by decide)]
  rfl

theorem within_assemble (s : Segment) (loc : List Segment)
    (x : Checked Issue (Header × List NodeDef)) :
    within (s :: loc) (Checked.issues (assemble x)) = within (s :: loc) (Checked.issues x) := by
  unfold assemble
  split
  · rfl
  · -- The rule about repeated components speaks of the component itself.
    split
    · rfl
    · rfl

theorem within_component {inner : List (String × Json)}
    (htype : Ordered.find? "type" inner = some (.str "component")) (loc : List Segment) :
    within (.name "component" :: .name "nodes" :: loc)
        (Checked.issues (node (Data.ofJson (.obj inner)))) =
      (within (.name "nodes" :: loc) (Checked.issues (nodesField (Data.ofJsonMembers inner)))).map
        (under (.name "component")) := by
  rw [issues_node_of_tag (t := .component) (tag_ofJsonMembers.2 htype), Tag.word, within_map_under,
    within_assemble, Checked.issues_both, within_append, within_header, List.nil_append]

theorem within_page (loc : List Segment) (entries : List (Data × Data)) :
    within (.name "nodes" :: loc) (Checked.issues (page entries)) =
      within (.name "nodes" :: loc) (Checked.issues (nodesField entries)) := by
  simp only [page, Checked.issues_map, Checked.issues_both, within_append]
  rw [within_required (by decide), within_optional (by decide), within_optional (by decide)]
  rfl

end Check

namespace Json

/-- The lists of nodes in a mapping, at every depth, with their locations. -/
inductive ListedAt : List (String × Json) → List Segment → List Json → Prop
  | here {members : List (String × Json)} {items : List Json}
      (h : Ordered.find? "nodes" members = some (.arr items)) :
      ListedAt members [.name "nodes"] items
  | deeper {members inner : List (String × Json)} {items lower : List Json} {i : Nat}
      {loc : List Segment} (h : Ordered.find? "nodes" members = some (.arr items))
      (hi : items[i]? = some (.obj inner))
      (htype : Ordered.find? "type" inner = some (.str "component"))
      (hlower : ListedAt inner loc lower) :
      ListedAt members (.name "nodes" :: .place i :: .name "component" :: loc) lower

def issues (j : Json) : List Issue := Checked.issues (Check.node (Data.ofJson j))

variable {members : List (String × Json)} {items : List Json} {loc : List Segment}

theorem ListedAt.exists_cons (h : ListedAt members loc items) :
    ∃ rest, loc = .name "nodes" :: rest := by
  cases h with
  | here => exact ⟨_, rfl⟩
  | deeper => exact ⟨_, rfl⟩

theorem issues_nodesField (h : Ordered.find? "nodes" members = some (.arr items)) :
    Checked.issues (Check.nodesField (Data.ofJsonMembers members)) =
      (Checked.issues (Check.nodes 0 (Data.ofJsonAll items))).map (under (.name "nodes")) := by
  rw [Check.nodesField_ofJsonMembers, h]
  exact Checked.issues_under _ _

theorem issues_nodes_ofJsonAll (items : List Json) :
    Checked.issues (Check.nodes 0 (Data.ofJsonAll items)) =
      items.zipIdx.flatMap fun p => p.1.issues.map (under (.place p.2)) := by
  rw [Check.issues_nodes, Check.ofJsonAll_eq_map, List.zipIdx_map, List.flatMap_map]
  rfl

theorem within_nodes_ofJsonAll {j : Json} {i : Nat} (hi : items[i]? = some j)
    (loc : List Segment) :
    within (.place i :: loc) (Checked.issues (Check.nodes 0 (Data.ofJsonAll items))) =
      (within loc j.issues).map (under (.place i)) := by
  have h := Check.within_nodes 0 i (Data.ofJsonAll items) loc
  rw [Nat.zero_add, Check.ofJsonAll_eq_map, List.getElem?_map, hi] at h
  rw [Check.ofJsonAll_eq_map]
  exact h

theorem ListedAt.within_nodesField (h : ListedAt members loc items) (more : List Segment) :
    within (loc ++ more) (Checked.issues (Check.nodesField (Data.ofJsonMembers members))) =
      (within more (Checked.issues (Check.nodes 0 (Data.ofJsonAll items)))).map (Issue.below loc) := by
  -- On the depth of the list: neither the entries next to it nor the fields around it
  -- have issues in it.
  induction h with
  | here h =>
      rw [issues_nodesField h]
      exact within_map_under _ _ _
  | @deeper members inner items lower i loc h hi htype hlower ih =>
      obtain ⟨rest, hrest⟩ := hlower.exists_cons
      rw [issues_nodesField h, List.cons_append, within_map_under, List.cons_append,
        within_nodes_ofJsonAll hi, List.cons_append, issues, hrest, List.cons_append,
        Check.within_component htype, ← List.cons_append, ← hrest, ih]
      simp only [map_below_cons]

theorem exists_writtenAs_iff (j : Json) : (∃ nd : NodeDef, nd.WrittenAs j) ↔ j.issues = [] := by
  constructor
  · rintro ⟨nd, h⟩
    rw [issues, (Check.node_ofJson_eq_ok_iff j).2 h]
    rfl
  · intro h
    obtain ⟨nd, hnd⟩ := Check.telling_node _ h
    exact ⟨nd, (Check.node_ofJson_eq_ok_iff j).1 hnd⟩

end Json

open Json

namespace PageDef

def issues (members : List (String × Json)) : List Issue :=
  Checked.issues (Check.page (Data.ofJsonMembers members))

variable {members : List (String × Json)} {items : List Json} {loc : List Segment}

theorem within_issues (h : ListedAt members loc items) (more : List Segment) :
    within (loc ++ more) (issues members) =
      (within more (Checked.issues (Check.nodes 0 (Data.ofJsonAll items)))).map (below loc) := by
  rw [← h.within_nodesField]
  obtain ⟨rest, rfl⟩ := h.exists_cons
  exact Check.within_page _ _

theorem within_issues_list (h : ListedAt members loc items) :
    within loc (issues members) =
      items.zipIdx.flatMap fun p => p.1.issues.map (below (loc ++ [.place p.2])) := by
  have hall := within_issues h []
  rw [List.append_nil, within_nil, issues_nodes_ofJsonAll] at hall
  simp only [hall, List.map_flatMap, List.map_map]
  congr 1
  funext p
  congr 1
  funext i
  simp [below, under]

/-- An entry has a share in the report exactly if it does not stand for a node. -/
theorem exists_issue_at_iff {j : Json} {i : Nat} (h : ListedAt members loc items)
    (hi : items[i]? = some j) :
    (∃ e ∈ issues members, loc ++ [.place i] <+: e.location) ↔
      ∀ nd : NodeDef, ¬ nd.WrittenAs j := by
  rw [exists_within_iff, within_issues h, within_nodes_ofJsonAll hi, within_nil, Ne,
    List.map_eq_nil_iff, List.map_eq_nil_iff, ← exists_writtenAs_iff, not_exists]

theorem ofDocument_eq_invalid_iff {env : Environment} {file : String} {place : Nat}
    {is : List Issue} :
    ofDocument env file place (Data.ofJson (.obj members)) = .error (.invalid file place is) ↔
      is ≠ [] ∧ issues (substitutedMembers env members) = is := by
  rw [ofDocument, Data.ofJson, Substitution.inData, inEntries_ofJsonMembers]
  have htelling := Check.telling_page (Data.ofJsonMembers (substitutedMembers env members))
  rw [issues]
  cases hpage : Check.page (Data.ofJsonMembers (substitutedMembers env members)) with
  | ok p =>
      refine iff_of_false (by simp [hpage]) ?_
      rintro ⟨hne, hnil⟩
      exact hne hnil.symm
  | error es =>
      have hne : es ≠ [] := by
        rintro rfl
        rw [hpage] at htelling
        obtain ⟨p, hp⟩ := htelling rfl
        cases hp
      simp only [hpage, Checked.issues, Except.error.injEq, LoadFault.invalid.injEq, true_and]
      exact ⟨fun h => ⟨h ▸ hne, h⟩, And.right⟩

/-- Issues compose and none is hidden. Each entry has its own issues, whatever stands
next to it or around it; the report on a list of nodes, at any depth, consists of those
of its entries in order, and is what the loader refuses the document with. -/
theorem issues_compose (env : Environment) (file : String) (place : Nat)
    (members : List (String × Json)) :
    (∀ j is, EntryIssues j is ↔ j.issues = is) ∧
    (∀ is, PageIssues members is ↔ issues members = is) ∧
    (∀ loc items, ListedAt members loc items →
      within loc (issues members) =
          items.zipIdx.flatMap (fun p => p.1.issues.map (below (loc ++ [.place p.2]))) ∧
        ∀ i j, items[i]? = some j →
          ((∃ e ∈ issues members, loc ++ [.place i] <+: e.location) ↔
            ∀ nd : NodeDef, ¬ nd.WrittenAs j)) ∧
    ∀ is, ofDocument env file place (Data.ofJson (.obj members)) =
        .error (.invalid file place is) ↔
      is ≠ [] ∧ PageIssues (substitutedMembers env members) is := by
  refine ⟨fun j is => Check.entryIssues_iff j, fun is => Check.pageIssues_iff,
    fun loc items h => ⟨within_issues_list h, fun i j hi => exists_issue_at_iff h hi⟩,
    fun is => ?_⟩
  rw [ofDocument_eq_invalid_iff, Check.pageIssues_iff]
  rfl

/-- A panel in the second place, in which a tag is unknown and a repeated component
has no selector. -/
def panelled : List (String × Json) :=
  let element (name : String) : Json :=
    .obj [("type", .str "element"), ("alias", .str name), ("selector", .str "b")]
  [("page", .str "Shop"),
    ("nodes", .arr [element " ",
      .obj [("type", .str "component"), ("alias", .str "Panel"), ("collection", .bool true),
        ("nodes", .arr [.obj [("type", .str "widget")], element "Ok",
          .obj [("type", .str "component"), ("alias", .str "Rows"),
            ("collection", .str "yes"), ("selector", .str "")]])]])]

/-- The panel is not asked for its selector, being repeated too, while it has issues. -/
theorem issues_compose_panelled :
    let inPanel : List Segment :=
      [.name "nodes", .place 1, .name "component", .name "nodes"]
    issues panelled =
      [⟨[.name "nodes", .place 0, .name "element", .name "alias"], .blankAlias⟩,
        ⟨inPanel ++ [.place 0], .unknownTag "widget"⟩,
        ⟨inPanel ++ [.place 2, .name "component"], .repeatedWithoutSelector⟩] ∧
    ∃ items, ListedAt panelled inPanel items ∧
      within inPanel (issues panelled) =
        items.zipIdx.flatMap (fun p => p.1.issues.map (below (inPanel ++ [.place p.2]))) ∧
      ¬ ∃ e ∈ issues panelled, inPanel ++ [.place 1] <+: e.location := by
  intro inPanel
  obtain ⟨-, -, hlists, -⟩ := issues_compose [] "shop.yaml" 1 panelled
  have hpanel : ListedAt panelled inPanel _ := .deeper (i := 1) rfl rfl rfl (.here rfl)
  obtain ⟨hreport, hshare⟩ := hlists _ _ hpanel
  refine ⟨by decide +kernel, _, hpanel, hreport, fun hissue => ?_⟩
  have hrefused := not_exists.2 ((hshare 1 _ rfl).1 hissue)
  exact hrefused ((exists_writtenAs_iff _).2 (by decide +kernel))

end PageDef

end PageAtlas
