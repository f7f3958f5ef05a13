import Mathlib.Data.List.Forall2
import PageAtlas.Proofs.Definition.Members

/-!
# The language of page definitions

Which mappings of JSON values are page definitions, and which definition each
of them stands for. The check accepts a mapping exactly if it is one of them,
whatever else the mapping holds, and the loader does the same once references
are replaced.
-/

namespace PageAtlas

namespace Json

def ListsNodes (members : List (String × Json)) (items : List Json) : Prop :=
  OptionalMember members "nodes" [] (fun j items => j = .arr items) items

/-! ## References in a value -/

mutual

def substituted (env : Environment) : Json → Json
  | str s => str (Substitution.inText env s)
  | arr items => arr (substitutedAll env items)
  | obj members => obj (substitutedMembers env members)
  | j => j

def substitutedAll (env : Environment) : List Json → List Json
  | [] => []
  | j :: js => substituted env j :: substitutedAll env js

def substitutedMembers (env : Environment) : List (String × Json) → List (String × Json)
  | [] => []
  | (k, j) :: ms => (k, substituted env j) :: substitutedMembers env ms

end

mutual

theorem inData_ofJson (env : Environment) (j : Json) :
    Substitution.inData env (Data.ofJson j) = Data.ofJson (j.substituted env) := by
  cases j with
  | str s => rfl
  | arr items => rw [Data.ofJson, Substitution.inData, substituted, Data.ofJson, inItems_ofJsonAll]
  | obj members =>
      rw [Data.ofJson, Substitution.inData, substituted, Data.ofJson, inEntries_ofJsonMembers]
  | _ => rfl

theorem inItems_ofJsonAll (env : Environment) (items : List Json) :
    Substitution.inItems env (Data.ofJsonAll items) =
      Data.ofJsonAll (substitutedAll env items) := by
  match items with
  | [] => rfl
  | j :: items =>
      rw [Data.ofJsonAll, Substitution.inItems, substitutedAll, Data.ofJsonAll, inData_ofJson,
        inItems_ofJsonAll]

theorem inEntries_ofJsonMembers (env : Environment) (members : List (String × Json)) :
    Substitution.inEntries env (Data.ofJsonMembers members) =
      Data.ofJsonMembers (substitutedMembers env members) := by
  match members with
  | [] => rfl
  | (k, j) :: members =>
      rw [Data.ofJsonMembers, Substitution.inEntries, substitutedMembers, Data.ofJsonMembers,
        inData_ofJson, inEntries_ofJsonMembers]

end

end Json

open Json

/-- A node and the values that stand for it. -/
inductive NodeDef.WrittenAs : NodeDef → Json → Prop
  | leaf {l : Leaf} {members : List (String × Json)}
      (htype : Ordered.find? "type" members =
        some (.str (if l.repeated then "collection" else "element")))
      (hnames : Names members l.name l.selectorType l.text)
      (hselector : TrimmedMember members "selector" l.selector) :
      WrittenAs (.leaf l) (.obj members)
  | component {h : Header} {nodes : List NodeDef} {members : List (String × Json)}
      {items : List Json} (htype : Ordered.find? "type" members = some (.str "component"))
      (hnames : Names members h.name h.selectorType h.text)
      (hselector : OptionalMember members "selector" none (fun j o => j = .ofOption o) h.selector)
      (hrepeated : OptionalMember members "collection" false IsTruth h.repeated)
      (hscoped : h.repeated = true → ∃ s, h.selector = some s ∧ s ≠ "")
      (hitems : ListsNodes members items) (hnodes : List.Forall₂ WrittenAs nodes items) :
      WrittenAs (.component h nodes) (.obj members)

/-- A page definition and the mappings that stand for it. -/
structure PageDef.WrittenAs (p : PageDef) (members : List (String × Json)) : Prop where
  version : OptionalMember members "version" "1" (fun j s => j = .str s) p.version
  page : TrimmedMember members "page" p.page
  description : OptionalMember members "description" none (fun j o => j = .ofOption o) p.description
  nodes : ∃ items, ListsNodes members items ∧ List.Forall₂ NodeDef.WrittenAs p.nodes items

def NodeDef.memberNames : List String :=
  ["type", "alias", "selector_type", "text", "selector", "collection", "nodes"]

def PageDef.memberNames : List String := ["version", "page", "description", "nodes"]

namespace Check

variable {members : List (String × Json)}

/-! ## Nodes -/

theorem leaf_ofJsonMembers {repeated : Bool} {nd : NodeDef} :
    leaf repeated (Data.ofJsonMembers members) = .ok nd ↔
      ∃ l : Leaf, nd = .leaf l ∧ l.repeated = repeated ∧
        Names members l.name l.selectorType l.text ∧
        TrimmedMember members "selector" l.selector := by
  rw [leaf, Checked.map_eq_ok_iff]
  constructor
  · rintro ⟨⟨⟨name, selectorType, text⟩, selector⟩, hboth, rfl⟩
    obtain ⟨hcommon, hselector⟩ := Checked.both_eq_ok_iff.1 hboth
    exact ⟨_, rfl, rfl, common_ofJsonMembers.1 hcommon, trimmed_ofJsonMembers.1 hselector⟩
  · rintro ⟨l, rfl, rfl, hnames, hselector⟩
    refine ⟨((l.name, l.selectorType, l.text), l.selector), ?_, rfl⟩
    exact Checked.both_eq_ok_iff.2
      ⟨common_ofJsonMembers.2 hnames, trimmed_ofJsonMembers.2 hselector⟩

theorem header_ofJsonMembers {h : Header} :
    header (Data.ofJsonMembers members) = .ok h ↔
      Names members h.name h.selectorType h.text ∧
        OptionalMember members "selector" none (fun j o => j = .ofOption o) h.selector ∧
        OptionalMember members "collection" false IsTruth h.repeated := by
  rw [header, Checked.map_eq_ok_iff]
  constructor
  · rintro ⟨⟨⟨name, selectorType, text⟩, selector, repeated⟩, hboth, rfl⟩
    obtain ⟨hcommon, hrest⟩ := Checked.both_eq_ok_iff.1 hboth
    obtain ⟨hselector, hrepeated⟩ := Checked.both_eq_ok_iff.1 hrest
    exact ⟨common_ofJsonMembers.1 hcommon,
      (optional_ofJsonMembers fun _ _ => optionalText_ofJson_eq_ok_iff).1 hselector,
      (optional_ofJsonMembers fun _ _ => truth_ofJson_eq_ok_iff).1 hrepeated⟩
  · rintro ⟨hnames, hselector, hrepeated⟩
    refine ⟨((h.name, h.selectorType, h.text), h.selector, h.repeated), ?_, rfl⟩
    refine Checked.both_eq_ok_iff.2 ⟨common_ofJsonMembers.2 hnames, ?_⟩
    exact Checked.both_eq_ok_iff.2
      ⟨(optional_ofJsonMembers fun _ _ => optionalText_ofJson_eq_ok_iff).2 hselector,
        (optional_ofJsonMembers fun _ _ => truth_ofJson_eq_ok_iff).2 hrepeated⟩

theorem assemble_eq_ok_iff {x : Checked Issue Header} {y : Checked Issue (List NodeDef)}
    {nd : NodeDef} :
    assemble (Checked.both x y) = .ok nd ↔ ∃ h nodes, x = .ok h ∧ y = .ok nodes ∧
      (h.repeated = true → ∃ s, h.selector = some s ∧ s ≠ "") ∧ nd = .component h nodes := by
  constructor
  · intro hok
    unfold assemble at hok
    split at hok
    · cases hok
    next h nodes hboth =>
    obtain ⟨hx, hy⟩ := Checked.both_eq_ok_iff.1 hboth
    split at hok
    · exact absurd hok (Checked.complain_ne_ok _ _)
    next hcond =>
    cases hok
    refine ⟨h, nodes, hx, hy, ?_, rfl⟩
    intro hrepeated
    rw [hrepeated, Bool.true_and, Option.isNone_iff_eq_none] at hcond
    exact isSome_nonEmpty?_iff.1 (Option.isSome_iff_ne_none.2 hcond)
  · rintro ⟨h, nodes, rfl, rfl, hscoped, rfl⟩
    have hcond : ¬ (h.repeated && (nonEmpty? h.selector).isNone) = true := by
      intro hcond
      obtain ⟨hrepeated, hnone⟩ := Bool.and_eq_true_iff.1 hcond
      have hsome := isSome_nonEmpty?_iff.2 (hscoped hrepeated)
      rw [Option.isNone_iff_eq_none.1 hnone] at hsome
      cases hsome
    rw [Checked.both, assemble]
    exact if_neg hcond

theorem nodesField_ofJsonMembers (members : List (String × Json)) :
    nodesField (Data.ofJsonMembers members) =
      match Ordered.find? "nodes" members with
      | none => .ok []
      | some j => Checked.under (.name "nodes") (nodeList (Data.ofJson j)) := by
  induction members with
  | nil => rfl
  | cons m ms ih =>
      rw [Data.ofJsonMembers, nodesField, Ordered.find?]
      split
      · rfl
      · exact ih

-- A mapping, its list of nodes and their mappings are read along the value.

mutual

theorem node_ofJson_eq_ok_iff (j : Json) {nd : NodeDef} :
    node (Data.ofJson j) = .ok nd ↔ nd.WrittenAs j := by
  cases j with
  | obj members =>
      rw [Data.ofJson, node]
      constructor
      · intro h
        split at h
        · exact absurd h (Checked.complain_ne_ok _ _)
        next t htag =>
        rw [Checked.under_eq_ok_iff] at h
        have htype := tag_ofJsonMembers.1 htag
        cases t with
        | element =>
            obtain ⟨l, rfl, hrepeated, hnames, hselector⟩ := leaf_ofJsonMembers.1 h
            refine .leaf ?_ hnames hselector
            rw [hrepeated]
            exact htype
        | collection =>
            obtain ⟨l, rfl, hrepeated, hnames, hselector⟩ := leaf_ofJsonMembers.1 h
            refine .leaf ?_ hnames hselector
            rw [hrepeated]
            exact htype
        | component =>
            obtain ⟨h, nodes, hheader, hfield, hscoped, rfl⟩ := assemble_eq_ok_iff.1 h
            obtain ⟨hnames, hselector, hrepeated⟩ := header_ofJsonMembers.1 hheader
            obtain ⟨items, hitems, hnodes⟩ := (nodesField_ofJson_eq_ok_iff members).1 hfield
            exact .component htype hnames hselector hrepeated hscoped hitems hnodes
      · intro h
        cases h with
        | @leaf l _ htype hnames hselector =>
            have htag : tag (Data.ofJsonMembers members) =
                .ok (if l.repeated then .collection else .element) := by
              rw [tag_ofJsonMembers, htype]
              cases l.repeated <;> rfl
            have hleaf : leaf l.repeated (Data.ofJsonMembers members) = .ok (.leaf l) :=
              leaf_ofJsonMembers.2 ⟨l, rfl, rfl, hnames, hselector⟩
            rw [htag]
            dsimp only
            rw [Checked.under_eq_ok_iff]
            cases hrepeated : l.repeated <;> rw [hrepeated] at hleaf <;> exact hleaf
        | @component h nodes _ items htype hnames hselector hrepeated hscoped hitems hnodes =>
            have htag : tag (Data.ofJsonMembers members) = .ok .component :=
              tag_ofJsonMembers.2 htype
            rw [htag]
            dsimp only
            rw [Checked.under_eq_ok_iff, assemble_eq_ok_iff]
            exact ⟨h, nodes, header_ofJsonMembers.2 ⟨hnames, hselector, hrepeated⟩,
              (nodesField_ofJson_eq_ok_iff members).2 ⟨items, hitems, hnodes⟩, hscoped, rfl⟩
  | _ =>
      constructor
      · intro h
        exact absurd h (Checked.complain_ne_ok _ _)
      · intro h
        cases h

theorem nodesField_ofJson_eq_ok_iff (members : List (String × Json)) {nds : List NodeDef} :
    nodesField (Data.ofJsonMembers members) = .ok nds ↔
      ∃ items, ListsNodes members items ∧ List.Forall₂ NodeDef.WrittenAs nds items := by
  match members with
  | [] => simp [Data.ofJsonMembers, nodesField, ListsNodes, OptionalMember, Ordered.find?, eq_comm]
  | (k, v) :: ms =>
      rw [Data.ofJsonMembers, nodesField]
      simp only [ListsNodes, OptionalMember, Ordered.find?]
      split
      · rw [Checked.under_eq_ok_iff]
        exact nodeList_ofJson_eq_ok_iff v
      · exact nodesField_ofJson_eq_ok_iff ms

theorem nodeList_ofJson_eq_ok_iff (j : Json) {nds : List NodeDef} :
    nodeList (Data.ofJson j) = .ok nds ↔
      ∃ items, j = .arr items ∧ List.Forall₂ NodeDef.WrittenAs nds items := by
  cases j with
  | arr items =>
      rw [Data.ofJson, nodeList, nodes_ofJsonAll_eq_ok_iff items]
      simp
  | _ =>
      constructor
      · intro h
        exact absurd h (Checked.complain_ne_ok _ _)
      · rintro ⟨items, hitems, _⟩
        cases hitems

theorem nodes_ofJsonAll_eq_ok_iff (items : List Json) {place : Nat} {nds : List NodeDef} :
    nodes place (Data.ofJsonAll items) = .ok nds ↔ List.Forall₂ NodeDef.WrittenAs nds items := by
  match items with
  | [] =>
      rw [Data.ofJsonAll, nodes, List.forall₂_nil_right_iff]
      simp [eq_comm]
  | j :: items =>
      rw [Data.ofJsonAll, nodes, Checked.map_eq_ok_iff, List.forall₂_cons_right_iff]
      constructor
      · rintro ⟨⟨nd, nds⟩, hboth, rfl⟩
        obtain ⟨hnd, hnds⟩ := Checked.both_eq_ok_iff.1 hboth
        rw [Checked.under_eq_ok_iff] at hnd
        exact ⟨nd, nds, (node_ofJson_eq_ok_iff j).1 hnd,
          (nodes_ofJsonAll_eq_ok_iff items).1 hnds, rfl⟩
      · rintro ⟨nd, nds, hnd, hnds, rfl⟩
        refine ⟨(nd, nds), Checked.both_eq_ok_iff.2 ⟨?_, ?_⟩, rfl⟩
        · exact Checked.under_eq_ok_iff.2 ((node_ofJson_eq_ok_iff j).2 hnd)
        · exact (nodes_ofJsonAll_eq_ok_iff items).2 hnds

end

/-! ## Pages -/

theorem page_ofJsonMembers_eq_ok_iff {p : PageDef} :
    page (Data.ofJsonMembers members) = .ok p ↔ p.WrittenAs members := by
  rw [page, Checked.map_eq_ok_iff]
  constructor
  · rintro ⟨⟨version, name, description, nodes⟩, hboth, rfl⟩
    obtain ⟨hversion, hrest⟩ := Checked.both_eq_ok_iff.1 hboth
    obtain ⟨hpage, hrest⟩ := Checked.both_eq_ok_iff.1 hrest
    obtain ⟨hdescription, hnodes⟩ := Checked.both_eq_ok_iff.1 hrest
    exact ⟨(optional_ofJsonMembers fun _ _ => text_ofJson_eq_ok_iff).1 hversion,
      trimmed_ofJsonMembers.1 hpage,
      (optional_ofJsonMembers fun _ _ => optionalText_ofJson_eq_ok_iff).1 hdescription,
      (nodesField_ofJson_eq_ok_iff members).1 hnodes⟩
  · rintro ⟨hversion, hpage, hdescription, hnodes⟩
    refine ⟨(p.version, p.page, p.description, p.nodes), ?_, rfl⟩
    refine Checked.both_eq_ok_iff.2 ⟨?_, Checked.both_eq_ok_iff.2 ⟨?_, ?_⟩⟩
    · exact (optional_ofJsonMembers fun _ _ => text_ofJson_eq_ok_iff).2 hversion
    · exact trimmed_ofJsonMembers.2 hpage
    · refine Checked.both_eq_ok_iff.2 ⟨?_, (nodesField_ofJson_eq_ok_iff members).2 hnodes⟩
      exact (optional_ofJsonMembers fun _ _ => optionalText_ofJson_eq_ok_iff).2 hdescription

/-! ## Other members -/

variable {others : List (String × Json)}

theorem entry?_eq_of_find?_eq {name : String}
    (h : Ordered.find? name others = Ordered.find? name members) :
    Data.entry? name (Data.ofJsonMembers others) =
      Data.entry? name (Data.ofJsonMembers members) := by
  rw [entry?_ofJsonMembers, entry?_ofJsonMembers, h]

theorem nodesField_eq_of_find?_eq
    (h : Ordered.find? "nodes" others = Ordered.find? "nodes" members) :
    nodesField (Data.ofJsonMembers others) = nodesField (Data.ofJsonMembers members) := by
  rw [nodesField_ofJsonMembers, nodesField_ofJsonMembers, h]

theorem page_eq_of_members (h : ∀ name ∈ PageDef.memberNames,
    Ordered.find? name others = Ordered.find? name members) :
    page (Data.ofJsonMembers others) = page (Data.ofJsonMembers members) := by
  simp only [PageDef.memberNames, List.forall_mem_cons] at h
  obtain ⟨hversion, hpage, hdescription, hnodes, -⟩ := h
  rw [page, page, nodesField_eq_of_find?_eq hnodes]
  simp only [optional, required, entry?_eq_of_find?_eq hversion, entry?_eq_of_find?_eq hpage,
    entry?_eq_of_find?_eq hdescription]

theorem node_eq_of_members (h : ∀ name ∈ NodeDef.memberNames,
    Ordered.find? name others = Ordered.find? name members) :
    node (Data.ofJson (.obj others)) = node (Data.ofJson (.obj members)) := by
  simp only [NodeDef.memberNames, List.forall_mem_cons] at h
  obtain ⟨htype, hname, hselectorType, htext, hselector, hrepeated, hnodes, -⟩ := h
  rw [Data.ofJson, Data.ofJson, node, node, nodesField_eq_of_find?_eq hnodes]
  simp only [tag, leaf, header, common, optional, required, entry?_eq_of_find?_eq htype,
    entry?_eq_of_find?_eq hname, entry?_eq_of_find?_eq hselectorType, entry?_eq_of_find?_eq htext,
    entry?_eq_of_find?_eq hselector, entry?_eq_of_find?_eq hrepeated]

end Check

/-- A mapping is accepted as a page definition exactly if it stands for one, and
then that one is returned; the loader looks at the mapping with its references
replaced. Other members, of the page or of a node in it, change nothing. -/
theorem PageDef.ofDocument_eq_ok_iff (env : Environment) (file : String) (place : Nat)
    (members : List (String × Json)) (p : PageDef) :
    (Check.page (Data.ofJsonMembers members) = .ok p ↔ p.WrittenAs members) ∧
    (PageDef.ofDocument env file place (Data.ofJson (.obj members)) = .ok p ↔
      p.WrittenAs (substitutedMembers env members)) ∧
    (∀ others, (∀ name ∈ PageDef.memberNames,
        Ordered.find? name others = Ordered.find? name members) →
      Check.page (Data.ofJsonMembers others) = Check.page (Data.ofJsonMembers members)) ∧
    ∀ nodeMembers others, (∀ name ∈ NodeDef.memberNames,
        Ordered.find? name others = Ordered.find? name nodeMembers) →
      Check.node (Data.ofJson (.obj others)) = Check.node (Data.ofJson (.obj nodeMembers)) := by
  refine ⟨Check.page_ofJsonMembers_eq_ok_iff, ?_, fun others => Check.page_eq_of_members,
    fun nodeMembers others => Check.node_eq_of_members⟩
  rw [PageDef.ofDocument, Data.ofJson, Substitution.inData, inEntries_ofJsonMembers,
    ← Check.page_ofJsonMembers_eq_ok_iff]
  cases hpage : Check.page (Data.ofJsonMembers (substitutedMembers env members)) with
  | ok q => simp [hpage]
  | error issues => simp [hpage]

end PageAtlas
