import PageAtlas.Locator.Chain
import PageAtlas.Proofs.Definition.Built
import PageAtlas.Proofs.Resolution.Ambiguous

/-!
# The hint of a refused scope

On a page that was loaded, a refused scope is named by the last alias in front of
the refused one. To pick an element of it is what the message advises. That can be
done if a collection has this alias, but not if a grouping inside one has it.
-/

namespace PageAtlas

open PageAtlas.Path

theorem PageDef.aliasOf_of_lookup {n n' : Node Block} {key : String}
    (h : definitionGraph.lookup n key = .ok n') : definitionGraph.aliasOf n' = some key := by
  cases n with
  | leaf l => cases h
  | component b =>
      have hmem := (Graph.lookup_component_iff keyed_definitionGraph).1 h
      obtain ⟨nd, -, hentry⟩ := Block.exists_of_mem_children hmem
      obtain ⟨rfl, rfl⟩ := Prod.mk.inj hentry
      exact nd.aliasOf_node

theorem PageDef.aliasOf_of_nodeAt? {n m : Node Block} {keys : List String} {key : String}
    (h : definitionGraph.nodeAt? n (keys ++ [key]) = some m) :
    definitionGraph.aliasOf m = some key := by
  induction keys generalizing n with
  | nil =>
      obtain ⟨n', hn', hm⟩ := Graph.nodeAt?_cons_eq_some_iff.1 h
      cases hm
      exact aliasOf_of_lookup hn'
  | cons key' keys ih =>
      obtain ⟨n', -, hrest⟩ := Graph.nodeAt?_cons_eq_some_iff.1 h
      exact ih hrest

/-- A strict resolution that is refused a scope has come to a collection and from there
to groupings, and the scope is named by the last of these. If there are none, to pick
an element as advised works; otherwise it is refused, and what would work is to pick an
element of the collection. Only an index with too many digits cannot be picked by. -/
theorem PageDef.scope_of_refused {env : Environment} {file : String} {source : Source}
    {ps : List PageDef} {p : PageDef} {L : Type} {d : Driver L} {combine : Bool} {hs : List Hop}
    {name scope : Option String} (hload : PageDef.load env file source = .ok ps) (hp : p ∈ ps)
    (hrefused : (resolve definitionGraph d ⟨combine, true⟩ p.root hs).result =
      .error (.ambiguousScope name scope)) :
    p.build = .ok p.root ∧
    ∃ (w : Walk.Widened definitionGraph d ⟨combine, true⟩ (Walk.start p.root)) (key : String)
      (after : List Hop),
      hs = w.hops ++ .plain key :: after ∧ name = some key ∧ scope = some w.scope ∧
      definitionGraph.nodeAt? (.component p.root) (w.hops.map Hop.name) = some w.node ∧
      definitionGraph.aliasOf w.node = scope ∧
      (definitionGraph.isCollection w.node = true ↔ w.groupings = []) ∧
      ∀ pick,
        (w.groupings = [] → pick.Writable → ∃ l,
          (resolve definitionGraph d ⟨combine, true⟩ p.root (w.advised pick)).result = .ok l) ∧
        (w.groupings ≠ [] →
          (resolve definitionGraph d ⟨combine, true⟩ p.root (w.advised pick)).result =
            .error (.notACollection w.scope)) ∧
        (pick.Writable → ∃ f,
          (Walk.hops definitionGraph d ⟨combine, true⟩ (Walk.start p.root)
            (w.narrowed pick)).result = .ok f ∧ f.node = w.node ∧ f.multiple = false) ∧
        (¬pick.Writable →
          (Walk.hops definitionGraph d ⟨combine, true⟩ (Walk.start p.root)
            (w.narrowed pick)).result = .error .unwritableIndex) := by
  have haccepted : p.Accepted := PageDef.accepted_of_load hload p hp
  have hscoped := scoped_of_build haccepted.build
  have hne : hs ≠ [] := by
    rintro rfl
    cases hrefused
  obtain ⟨w, key, after, n, rfl, hlookup, rfl, rfl⟩ :=
    Walk.exists_of_ambiguousScope ((resolve_eq_error_iff hne).1 hrefused)
  obtain ⟨keys, hkeys⟩ := w.exists_keys
  have hat := w.nodeAt?_hops
  have hscope : definitionGraph.aliasOf w.node = some w.scope := by
    rw [hkeys] at hat
    exact aliasOf_of_nodeAt? hat
  refine ⟨haccepted.build, w, key, after, rfl, aliasOf_of_lookup hlookup, hscope, hat, rfl,
    w.isCollection_iff hscoped, fun pick =>
      ⟨fun hnil hpick => ?_, fun hcons => ?_, w.hops_narrowed, w.hops_narrowed_of_not⟩⟩
  · obtain ⟨f, hhops, -⟩ := w.hops_narrowed hpick
    rw [w.advised_of_nil hnil]
    exact ⟨f.locator, resolve_eq_ok_iff.2 ⟨w.narrowed_ne_nil pick, f, hhops, rfl⟩⟩
  · exact (resolve_eq_error_iff (w.advised_ne_nil pick)).2 (w.hops_advised hscoped hcons pick)

def groupedFile : Source :=
  .bytes <| Text.encode <| String.intercalate "\n"
    ["page: P",
      "nodes:",
      "- type: component",
      "  alias: Rows",
      "  selector: tr",
      "  collection: true",
      "  nodes:",
      "  - type: component",
      "    alias: Group",
      "    nodes:",
      "    - type: element",
      "      alias: Name",
      "      selector: td"]

def groupedPage : PageDef where
  page := "P"
  nodes := [.component { name := "Rows", selector := some "tr", repeated := true }
    [.component { name := "Group" } [.leaf { name := "Name", selector := "td" }]]]

theorem load_groupedFile : PageDef.load [] "pages.yaml" groupedFile = .ok [groupedPage] := by
  apply Outcome.eq_ok_of_toOption
  decide +kernel

/-- The group is named as the scope, and the rows are what an element can be picked of. -/
theorem PageDef.scope_of_refused_group :
    groupedPage.build = .ok groupedPage.root ∧
    ∃ w : Walk.Widened definitionGraph (Chain.driver {} []) ⟨true, true⟩
        (Walk.start groupedPage.root),
      w.hops = [.plain "Rows", .plain "Group"] ∧ w.scope = "Group" ∧
      definitionGraph.isCollection w.node = false ∧
      ∃ f, (Walk.hops definitionGraph (Chain.driver {} []) ⟨true, true⟩
          (Walk.start groupedPage.root) (w.narrowed (.index 1))).result = .ok f ∧
        f.multiple = false := by
  have hmem : groupedPage ∈ [groupedPage] := List.mem_singleton_self _
  have hrefused : (resolve definitionGraph (Chain.driver {} []) ⟨true, true⟩ groupedPage.root
      [.plain "Rows", .plain "Group", .plain "Name"]).result =
        .error (.ambiguousScope (some "Name") (some "Group")) := rfl
  obtain ⟨hbuild, w, key, after, hsplit, hname, hscope, hat, -, -, hpick⟩ :=
    PageDef.scope_of_refused load_groupedFile hmem hrefused
  cases hname
  have hhops : w.hops = [.plain "Rows", .plain "Group"] := by
    rcases hw : w.hops with _ | ⟨first, _ | ⟨second, _ | ⟨third, rest⟩⟩⟩
    all_goals
      rw [hw] at hsplit
      simp_all
  rw [hhops] at hat
  obtain ⟨f, hwalk, -, hmultiple⟩ := (hpick (.index 1)).2.2.1 ⟨rfl, rfl⟩
  refine ⟨hbuild, w, hhops, (Option.some.inj hscope).symm, ?_, f, hwalk, hmultiple⟩
  rw [← Option.some.inj hat]
  rfl

/-- A scope that is no collection, so that no element of it can be picked. -/
theorem PageDef.unpickable_scope :
    PageDef.load [] "pages.yaml" groupedFile = .ok [groupedPage] ∧
    groupedPage.build = .ok groupedPage.root ∧
    (resolve definitionGraph (Chain.driver {} []) ⟨true, true⟩ groupedPage.root
      [.plain "Rows", .plain "Group", .plain "Name"]).result =
        .error (.ambiguousScope (some "Name") (some "Group")) ∧
    (Failure.ambiguousScope (some "Name") (some "Group")).message =
      "'Name' is scoped under collection 'Group'; pick one element first (e.g. '#1 of Group')" ∧
    (∃ n, definitionGraph.nodeAt? (.component groupedPage.root) ["Rows", "Group"] = some n ∧
      definitionGraph.aliasOf n = some "Group" ∧ definitionGraph.isCollection n = false) ∧
    (resolve definitionGraph (Chain.driver {} []) ⟨true, true⟩ groupedPage.root
      [.plain "Rows", .picked "Group" (.index 1), .plain "Name"]).result =
        .error (.notACollection "Group") :=
  ⟨load_groupedFile, rfl, rfl, rfl, ⟨_, rfl, rfl, rfl⟩, rfl⟩

end PageAtlas
