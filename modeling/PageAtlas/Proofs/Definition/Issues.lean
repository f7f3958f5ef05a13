import PageAtlas.Proofs.Checked
import PageAtlas.Proofs.Definition.Language
import PageAtlas.Proofs.Definition.Objections

/-!
# Issues of nested entries

What the check of a definition reports is put together from what is wrong with
each entry alone. An entry is located under its place in its list and, if its
tag is known, under the tag; its fields follow in their order. The rule about
repeated components speaks only where nothing else does. Entries neither hide
nor displace the issues of one another.
-/

namespace PageAtlas

namespace Json

/-- The rule that a repeated component breaks: it has no selector, or an empty one. -/
structure Unscoped (members : List (String × Json)) : Prop where
  repeated : ∃ j, Ordered.find? "collection" members = some j ∧ IsTruth j true
  selector : Ordered.find? "selector" members = none ∨
    Ordered.find? "selector" members = some .null ∨
    Ordered.find? "selector" members = some (.str "")

mutual

/-- What is wrong with an entry, located from the entry on. -/
inductive EntryIssues : Json → List Issue → Prop
  | notTable {j : Json} (h : ∀ members, j ≠ .obj members) : EntryIssues j [⟨[], .notTable⟩]
  | noTag {members : List (String × Json)} (h : Ordered.find? "type" members = none) :
      EntryIssues (.obj members) [⟨[], .noTag⟩]
  | unknownTag {members : List (String × Json)} {j : Json}
      (hfind : Ordered.find? "type" members = some j) (h : ∀ t : Check.Tag, j ≠ .str t.word) :
      EntryIssues (.obj members) [⟨[], .unknownTag (Data.ofJson j).display⟩]
  | leaf {members : List (String × Json)} {t : Check.Tag} {common selector : List Issue}
      (htype : Ordered.find? "type" members = some (.str t.word)) (hleaf : t ≠ .component)
      (hcommon : CommonIssues members common)
      (hselector : FieldIssues (TrimmedObjection .blankSelector) members "selector" selector) :
      EntryIssues (.obj members) ((common ++ selector).map (Issue.under (.name t.word)))
  | component {members : List (String × Json)} {fields nodes : List Issue}
      (htype : Ordered.find? "type" members = some (.str "component"))
      (hfields : HeaderIssues members fields)
      (hnodes : NodesIssues (Ordered.find? "nodes" members) nodes)
      (hrule : Unscoped members → fields ++ nodes ≠ []) :
      EntryIssues (.obj members) ((fields ++ nodes).map (Issue.under (.name "component")))
  | unscoped {members : List (String × Json)}
      (htype : Ordered.find? "type" members = some (.str "component"))
      (hfields : HeaderIssues members []) (hnodes : NodesIssues (Ordered.find? "nodes" members) [])
      (hrule : Unscoped members) :
      EntryIssues (.obj members) [⟨[.name "component"], .repeatedWithoutSelector⟩]

inductive NodesIssues : Option Json → List Issue → Prop
  | absent : NodesIssues none []
  | notList {j : Json} (h : ∀ items, j ≠ .arr items) :
      NodesIssues (some j) [⟨[.name "nodes"], .notList⟩]
  | list {items : List Json} {is : List Issue} (h : ListIssues 0 items is) :
      NodesIssues (some (.arr items)) (is.map (Issue.under (.name "nodes")))

/-- What is wrong with the entries of a list, counted from a place. -/
inductive ListIssues : Nat → List Json → List Issue → Prop
  | nil (place : Nat) : ListIssues place [] []
  | cons {place : Nat} {j : Json} {items : List Json} {is rest : List Issue}
      (hentry : EntryIssues j is) (hrest : ListIssues (place + 1) items rest) :
      ListIssues place (j :: items) (is.map (Issue.under (.place place)) ++ rest)

end

/-- What is wrong with a page definition: the issues of its fields in their order, the
nodes being the last of them. -/
inductive PageIssues (members : List (String × Json)) : List Issue → Prop
  | fields {version page description nodes : List Issue}
      (hversion : FieldIssues TextObjection members "version" version)
      (hpage : FieldIssues (TrimmedObjection .blankPage) members "page" page)
      (hdescription : FieldIssues OptionalTextObjection members "description" description)
      (hnodes : NodesIssues (Ordered.find? "nodes" members) nodes) :
      PageIssues members (version ++ (page ++ (description ++ nodes)))

end Json

open Json

/-! ## No failure without an issue -/

namespace Checked

variable {α : Type}

theorem telling_complain (c : Complaint) : (complain c : Checked Issue α).Telling := fun h => by
  cases h

namespace Telling

theorem under {x : Checked Issue α} (hx : x.Telling) (s : Segment) :
    (Checked.under s x).Telling := by
  intro h
  rw [issues_under, List.map_eq_nil_iff] at h
  obtain ⟨a, rfl⟩ := hx h
  exact ⟨a, rfl⟩

end Telling

end Checked

namespace Check

variable {α : Type} {members : List (String × Json)} {is : List Issue}

theorem telling_required (field : String) (check : Data → Except Complaint α)
    (entries : List (Data × Data)) : (required field check entries).Telling := by
  refine Checked.Telling.under ?_ _
  split
  · exact Checked.telling_complain _
  · split
    · exact Checked.telling_ok _
    · exact Checked.telling_complain _

theorem telling_optional (field : String) (default : α) (check : Data → Except Complaint α)
    (entries : List (Data × Data)) : (optional field default check entries).Telling := by
  refine Checked.Telling.under ?_ _
  split
  · exact Checked.telling_ok _
  · split
    · exact Checked.telling_ok _
    · exact Checked.telling_complain _

theorem telling_common (entries : List (Data × Data)) : (common entries).Telling :=
  (telling_required _ _ _).both ((telling_optional _ _ _ _).both (telling_optional _ _ _ _))

theorem telling_header (entries : List (Data × Data)) : (header entries).Telling :=
  ((telling_common _).both ((telling_optional _ _ _ _).both (telling_optional _ _ _ _))).map _

theorem telling_leaf (repeated : Bool) (entries : List (Data × Data)) :
    (leaf repeated entries).Telling :=
  ((telling_common _).both (telling_required _ _ _)).map _

theorem telling_assemble {x : Checked Issue (Header × List NodeDef)} (hx : x.Telling) :
    (assemble x).Telling := by
  unfold assemble
  split
  · next es =>
    intro h
    obtain ⟨p, hp⟩ := hx h
    cases hp
  · split
    · exact Checked.telling_complain _
    · exact Checked.telling_ok _

mutual

theorem telling_node (d : Data) : (node d).Telling := by
  cases d with
  | table entries =>
      rw [node]
      split
      · exact Checked.telling_complain _
      · refine Checked.Telling.under ?_ _
        split
        · exact telling_leaf _ _
        · exact telling_leaf _ _
        · exact telling_assemble ((telling_header _).both (telling_nodesField entries))
  | _ => exact Checked.telling_complain _

theorem telling_nodesField (entries : List (Data × Data)) : (nodesField entries).Telling := by
  match entries with
  | [] => exact Checked.telling_ok _
  | (k, v) :: es =>
      unfold nodesField
      split
      · exact Checked.telling_ok _
      · next h =>
        cases h
        split
        · exact (telling_nodeList v).under _
        · exact telling_nodesField es
      · next h =>
        cases h
        exact telling_nodesField es

theorem telling_nodeList (d : Data) : (nodeList d).Telling := by
  cases d with
  | list ds => exact telling_nodes 0 ds
  | set ds => exact telling_nodes 0 ds
  | pair a b => exact (((telling_node a).under _).both ((telling_node b).under _)).map _
  | _ => exact Checked.telling_complain _

theorem telling_nodes (place : Nat) (ds : List Data) : (nodes place ds).Telling := by
  match ds with
  | [] => exact Checked.telling_ok _
  | d :: ds =>
      rw [nodes]
      exact (((telling_node d).under _).both (telling_nodes (place + 1) ds)).map _

end

theorem telling_page (entries : List (Data × Data)) : (page entries).Telling :=
  ((telling_optional _ _ _ _).both ((telling_required _ _ _).both
    ((telling_optional _ _ _ _).both (telling_nodesField _)))).map _

/-! ## The tag of an entry -/

theorem tag_ofJsonMembers_eq_error_iff {c : Complaint} :
    tag (Data.ofJsonMembers members) = .error c ↔
      (Ordered.find? "type" members = none ∧ c = .noTag) ∨
        ∃ j, Ordered.find? "type" members = some j ∧ (∀ t : Tag, j ≠ .str t.word) ∧
          c = .unknownTag (Data.ofJson j).display := by
  have hok := @tag_ofJsonMembers members
  cases hfind : Ordered.find? "type" members with
  | none =>
      rw [tag, entry?_ofJsonMembers, hfind]
      simp [eq_comm]
  | some j =>
      have hcases : (∃ t, tag (Data.ofJsonMembers members) = .ok t) ∨
          tag (Data.ofJsonMembers members) = .error (.unknownTag (Data.ofJson j).display) := by
        rw [tag, entry?_ofJsonMembers, hfind]
        cases j with
        | str s =>
            simp only [Option.map_some, Data.ofJson]
            split
            · exact Or.inl ⟨_, rfl⟩
            split
            · exact Or.inl ⟨_, rfl⟩
            split
            · exact Or.inl ⟨_, rfl⟩
            · exact Or.inr rfl
        | _ => exact Or.inr rfl
      simp only [hfind, Option.some.injEq] at hok ⊢
      constructor
      · intro h
        refine Or.inr ⟨j, rfl, fun t ht => ?_, ?_⟩
        · cases h.symm.trans (hok.2 ht)
        · rcases hcases with ⟨t, ht⟩ | herror
          · cases h.symm.trans ht
          · cases h.symm.trans herror
            rfl
      · rintro (⟨⟨⟩, -⟩ | ⟨j', rfl, hnot, rfl⟩)
        rcases hcases with ⟨t, ht⟩ | herror
        · exact absurd (hok.1 ht) (hnot t)
        · exact herror

/-! ## The rule about repeated components -/

theorem unscoped_iff {h : Header} (hheader : header (Data.ofJsonMembers members) = .ok h) :
    Unscoped members ↔ (h.repeated && (nonEmpty? h.selector).isNone) = true := by
  obtain ⟨-, hselector, hrepeated⟩ := header_ofJsonMembers.1 hheader
  have hcollection : (∃ j, Ordered.find? "collection" members = some j ∧ IsTruth j true) ↔
      h.repeated = true := by
    rw [OptionalMember] at hrepeated
    cases hfind : Ordered.find? "collection" members with
    | none =>
        rw [hfind] at hrepeated
        simp [hrepeated]
    | some j =>
        rw [hfind] at hrepeated
        constructor
        · rintro ⟨j', hj', htrue⟩
          cases hj'
          have hread := truth_ofJson_eq_ok_iff.2 hrepeated
          rw [truth_ofJson_eq_ok_iff.2 htrue] at hread
          exact (Except.ok.inj hread).symm
        · intro htrue
          rw [htrue] at hrepeated
          exact ⟨j, rfl, hrepeated⟩
  have hempty : (Ordered.find? "selector" members = none ∨
      Ordered.find? "selector" members = some .null ∨
        Ordered.find? "selector" members = some (.str "")) ↔ nonEmpty? h.selector = none := by
    rw [OptionalMember] at hselector
    cases hfind : Ordered.find? "selector" members with
    | none =>
        rw [hfind] at hselector
        simp [hselector, nonEmpty?]
    | some j =>
        rw [hfind] at hselector
        rw [hselector]
        cases h.selector with
        | none => simp [Json.ofOption, nonEmpty?]
        | some s => simp [Json.ofOption, nonEmpty?]
  rw [Bool.and_eq_true, Option.isNone_iff_eq_none, ← hcollection, ← hempty]
  exact ⟨fun h => ⟨h.repeated, h.selector⟩, fun h => ⟨h.1, h.2⟩⟩

section Component

variable (hnil : Checked.issues (header (Data.ofJsonMembers members)) ++
  Checked.issues (nodesField (Data.ofJsonMembers members)) = [])

include hnil

theorem exists_header_of_issues_eq_nil : ∃ h nodes,
    header (Data.ofJsonMembers members) = .ok h ∧
      nodesField (Data.ofJsonMembers members) = .ok nodes := by
  obtain ⟨hheader, hnodes⟩ := List.append_eq_nil_iff.1 hnil
  obtain ⟨h, hh⟩ := telling_header _ hheader
  obtain ⟨nodes, hn⟩ := telling_nodesField _ hnodes
  exact ⟨h, nodes, hh, hn⟩

/-- The rule is looked at once the fields and the nodes are without issues. -/
theorem issues_component_of_unscoped (hrule : Unscoped members) :
    Checked.issues (assemble (Checked.both (header (Data.ofJsonMembers members))
      (nodesField (Data.ofJsonMembers members)))) = [⟨[], .repeatedWithoutSelector⟩] := by
  obtain ⟨h, nodes, hheader, hnodes⟩ := exists_header_of_issues_eq_nil hnil
  rw [hheader, hnodes, Checked.both, assemble, if_pos ((unscoped_iff hheader).1 hrule)]
  rfl

end Component

theorem issues_component (hrule : Unscoped members →
    Checked.issues (header (Data.ofJsonMembers members)) ++
      Checked.issues (nodesField (Data.ofJsonMembers members)) ≠ []) :
    Checked.issues (assemble (Checked.both (header (Data.ofJsonMembers members))
        (nodesField (Data.ofJsonMembers members)))) =
      Checked.issues (header (Data.ofJsonMembers members)) ++
        Checked.issues (nodesField (Data.ofJsonMembers members)) := by
  by_cases hnil : Checked.issues (header (Data.ofJsonMembers members)) ++
      Checked.issues (nodesField (Data.ofJsonMembers members)) = []
  · obtain ⟨h, nodes, hheader, hnodes⟩ := exists_header_of_issues_eq_nil hnil
    have hscoped : ¬ (h.repeated && (nonEmpty? h.selector).isNone) = true := fun hcond =>
      hrule ((unscoped_iff hheader).2 hcond) hnil
    rw [hheader, hnodes, Checked.both, assemble, if_neg hscoped]
    rfl
  · rw [← Checked.issues_both] at hnil ⊢
    cases hboth : Checked.both (header (Data.ofJsonMembers members))
        (nodesField (Data.ofJsonMembers members)) with
    | ok p =>
        rw [hboth] at hnil
        exact absurd rfl hnil
    | error es => rfl

/-! ## Entries -/

theorem issues_node_of_tag {t : Tag} (h : tag (Data.ofJsonMembers members) = .ok t) :
    Checked.issues (node (Data.ofJson (.obj members))) =
      (Checked.issues (match t with
        | .element => leaf false (Data.ofJsonMembers members)
        | .collection => leaf true (Data.ofJsonMembers members)
        | .component => assemble (Checked.both (header (Data.ofJsonMembers members))
            (nodesField (Data.ofJsonMembers members))))).map (Issue.under (.name t.word)) := by
  rw [Data.ofJson, node, h]
  exact Checked.issues_under _ _

theorem issues_leaf (repeated : Bool) (entries : List (Data × Data)) :
    Checked.issues (leaf repeated entries) = Checked.issues (common entries) ++
      Checked.issues (required "selector" (trimmed .blankSelector) entries) := by
  rw [leaf, Checked.issues_map, Checked.issues_both]

-- An entry, its list of nodes and their entries are checked along the value.

mutual

theorem entryIssues_iff (j : Json) {is : List Issue} :
    EntryIssues j is ↔ Checked.issues (node (Data.ofJson j)) = is := by
  cases j with
  | obj members =>
      have hnodes := fun is => @nodesIssues_iff members is
      constructor
      · intro h
        cases h with
        | notTable h => exact absurd rfl (h members)
        | noTag h =>
            have htag := tag_ofJsonMembers_eq_error_iff.2 (Or.inl ⟨h, rfl⟩)
            rw [Data.ofJson, node, htag]
            rfl
        | @unknownTag _ j hfind h =>
            have htag := tag_ofJsonMembers_eq_error_iff.2 (Or.inr ⟨j, hfind, h, rfl⟩)
            rw [Data.ofJson, node, htag]
            rfl
        | @leaf _ t _ _ htype hleaf hcommon hselector =>
            rw [issues_node_of_tag (tag_ofJsonMembers.2 htype), ← commonIssues_iff.1 hcommon,
              ← trimmedIssues_iff.1 hselector]
            cases t with
            | element => rw [issues_leaf]
            | collection => rw [issues_leaf]
            | component => exact absurd rfl hleaf
        | component htype hfields hlist hrule =>
            obtain rfl := headerIssues_iff.1 hfields
            obtain rfl := (hnodes _).1 hlist
            rw [issues_node_of_tag (t := .component) (tag_ofJsonMembers.2 htype)]
            exact congrArg _ (issues_component hrule)
        | unscoped htype hfields hlist hrule =>
            have hnil := (List.append_eq_nil_iff).2
              ⟨headerIssues_iff.1 hfields, (hnodes _).1 hlist⟩
            rw [issues_node_of_tag (t := .component) (tag_ofJsonMembers.2 htype)]
            exact congrArg (List.map _) (issues_component_of_unscoped hnil hrule)
      · rintro rfl
        cases htag : tag (Data.ofJsonMembers members) with
        | error c =>
            have hissues : Checked.issues (node (Data.ofJson (.obj members))) = [⟨[], c⟩] := by
              rw [Data.ofJson, node, htag]
              rfl
            rw [hissues]
            rcases tag_ofJsonMembers_eq_error_iff.1 htag with
              ⟨hfind, rfl⟩ | ⟨j, hfind, hnot, rfl⟩
            · exact .noTag hfind
            · exact .unknownTag hfind hnot
        | ok t =>
            have htype := tag_ofJsonMembers.1 htag
            have hleaf (ht : t ≠ .component) := EntryIssues.leaf htype ht
              (commonIssues_iff.2 rfl) (trimmedIssues_iff.2 rfl)
            rw [issues_node_of_tag htag]
            cases t with
            | element => exact issues_leaf false _ ▸ hleaf (by decide)
            | collection => exact issues_leaf true _ ▸ hleaf (by decide)
            | component =>
                by_cases hrule : Unscoped members →
                    Checked.issues (header (Data.ofJsonMembers members)) ++
                      Checked.issues (nodesField (Data.ofJsonMembers members)) ≠ []
                · have hcomponent := EntryIssues.component htype (headerIssues_iff.2 rfl)
                    ((hnodes _).2 rfl) hrule
                  exact issues_component hrule ▸ hcomponent
                · rw [Classical.not_imp, not_not] at hrule
                  obtain ⟨hunscoped, hnil⟩ := hrule
                  obtain ⟨hheader, hlist⟩ := List.append_eq_nil_iff.1 hnil
                  have hcomponent := EntryIssues.unscoped htype (headerIssues_iff.2 hheader)
                    ((hnodes _).2 hlist) hunscoped
                  exact issues_component_of_unscoped hnil hunscoped ▸ hcomponent
  | _ =>
      constructor
      · intro h
        cases h
        rfl
      · rintro rfl
        exact .notTable fun members h => by cases h

theorem nodesIssues_iff (members : List (String × Json)) {is : List Issue} :
    NodesIssues (Ordered.find? "nodes" members) is ↔
      Checked.issues (nodesField (Data.ofJsonMembers members)) = is := by
  match members with
  | [] =>
      constructor
      · rintro ⟨⟩
        rfl
      · rintro rfl
        exact .absent
  | (k, v) :: ms =>
      rw [Data.ofJsonMembers, nodesField, Ordered.find?]
      split
      · rw [Checked.issues_under]
        exact nodeListIssues_iff v
      · exact nodesIssues_iff ms

theorem nodeListIssues_iff (j : Json) {is : List Issue} :
    NodesIssues (some j) is ↔
      (Checked.issues (nodeList (Data.ofJson j))).map (Issue.under (.name "nodes")) = is := by
  cases j with
  | arr items =>
      have hitems := fun is => @listIssues_iff items 0 is
      constructor
      · intro h
        cases h with
        | notList h => exact absurd rfl (h items)
        | list h => rw [← (hitems _).1 h, Data.ofJson, nodeList]
      · rintro rfl
        exact .list ((hitems _).2 rfl)
  | _ =>
      constructor
      · intro h
        cases h
        rfl
      · rintro rfl
        exact .notList fun items h => by cases h

theorem listIssues_iff (items : List Json) (place : Nat) {is : List Issue} :
    ListIssues place items is ↔ Checked.issues (nodes place (Data.ofJsonAll items)) = is := by
  match items with
  | [] =>
      constructor
      · rintro ⟨⟩
        rfl
      · rintro rfl
        exact .nil place
  | j :: items =>
      rw [Data.ofJsonAll, nodes, Checked.issues_map, Checked.issues_both, Checked.issues_under]
      constructor
      · rintro ⟨⟩
        next hentry hrest =>
        rw [(entryIssues_iff j).1 hentry, (listIssues_iff items (place + 1)).1 hrest]
      · rintro rfl
        exact .cons ((entryIssues_iff j).2 rfl) ((listIssues_iff items (place + 1)).2 rfl)

end

theorem pageIssues_iff :
    PageIssues members is ↔ Checked.issues (page (Data.ofJsonMembers members)) = is := by
  rw [page, Checked.issues_map, Checked.issues_both, Checked.issues_both, Checked.issues_both]
  constructor
  · rintro ⟨hversion, hpage, hdescription, hnodes⟩
    rw [textIssues_iff.1 hversion, trimmedIssues_iff.1 hpage,
      optionalTextIssues_iff.1 hdescription, (nodesIssues_iff members).1 hnodes]
  · rintro rfl
    exact .fields (textIssues_iff.2 rfl) (trimmedIssues_iff.2 rfl) (optionalTextIssues_iff.2 rfl)
      ((nodesIssues_iff members).2 rfl)

end Check

end PageAtlas
