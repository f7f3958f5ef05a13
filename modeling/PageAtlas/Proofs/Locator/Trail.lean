import PageAtlas.Proofs.Locator.Scan
import PageAtlas.Proofs.Resolution.Related

/-!
# Trails

A trail records by which operation each part of a locator came about, so that
the first of several matches differs from the element at position zero, and a
query with a text from a collection that is narrowed later. Every chain and
every page locator that a walk composes is the image of a trail.
-/

namespace PageAtlas

/-- One operation of a driver, with what it adds to a locator. -/
inductive Move where
  | root (selector : String)
  | css (selector : String)
  | xpath (selector : String)
  | js (engine selector : String)
  /-- A css query together with a text. -/
  | containing (selector text : String)
  /-- A collection narrowed by a text. -/
  | withText (text : String)
  /-- The first of several matches. -/
  | first
  /-- The element at a position counted from zero. -/
  | element (index : Int)
  deriving DecidableEq, Repr

namespace Move

def engine : Move → Engine
  | root _ => .root
  | css _ => .css
  | xpath _ => .xpath
  | js _ _ => .js
  | containing _ _ => .cssText
  | withText _ => .filter
  | first => .nth
  | element _ => .nth

/-- The parts of a chain. A query with a text takes two. -/
def parts : Move → List Part
  | root selector => [.root selector]
  | css selector => [.css selector]
  | xpath selector => [.xpath selector]
  | js engine selector => [.js engine selector]
  | containing selector text => [.css selector, .hasText text]
  | withText text => [.hasText text]
  | first => [.nth 0]
  | element index => [.nth index]

theorem parts_ne_nil (m : Move) : m.parts ≠ [] := by
  cases m <;> exact List.cons_ne_nil _ _

def step : Move → Step
  | root selector => .select selector none
  | css selector => .select selector none
  | xpath selector => .select ("xpath=" ++ selector) none
  | js engine selector => .select (engine ++ "=" ++ selector) none
  | containing selector text => .select selector (some text)
  | withText text => .filter text
  | first => .first
  | element index => .nth index

def selector? : Move → Option String
  | css selector => some selector
  | xpath selector => some selector
  | js _ selector => some selector
  | containing selector _ => some selector
  | _ => none

def ofQuery (jsEngine : String) (q : Query) : Move :=
  match q.type with
  | .css => css q.selector
  | .xpath => xpath q.selector
  | .js => js jsEngine q.selector
  | .cssContainingText => containing q.selector (q.text.getD "")

end Move

/-- The moves that led to a locator; there is always a last one. -/
structure Trail where
  before : List Move
  last : Move
  deriving DecidableEq, Repr

namespace Trail

def moves (t : Trail) : List Move := t.before ++ [t.last]

def extend (t : Trail) (m : Move) : Trail := ⟨t.moves, m⟩

/-- A css query takes a text into itself; nothing else does. -/
def combine? (t : Trail) (text : String) : Option Trail :=
  match t.last with
  | .css selector => some ⟨t.before, .containing selector text⟩
  | _ => none

/-- The driver that only records moves, over given texts of each collection. -/
def driver (naming : Naming) (texts : Trail → List String) : Driver Trail where
  root := ⟨⟨[], .root naming.rootSelector⟩, []⟩
  locate scope q multiple :=
    let found := scope.extend (.ofQuery naming.jsEngine q)
    ⟨if multiple then found else found.extend .first, []⟩
  elementAt t index := t.extend (.element index)
  first t := t.extend .first
  combine? t text := (t.combine? text).map (⟨·, []⟩)
  withText t text := ⟨t.extend (.withText text), []⟩
  scan t := ⟨(texts t).mapIdx fun i text => ⟨t.extend (.element i), ⟨some text, []⟩⟩, []⟩
  engine t := t.last.engine

def chain (t : Trail) : Chain := ⟨t.moves.flatMap Move.parts, t.last.engine⟩

def locator (t : Trail) : PageLocator where
  steps := t.moves.map Move.step
  engine := t.last.engine
  selector := t.last.selector?
  scope := t.last.selector?.map fun _ => t.before.map Move.step

theorem moves_extend (t : Trail) (m : Move) : (t.extend m).moves = t.moves ++ [m] := rfl

theorem chain_extend (t : Trail) (m : Move) :
    (t.extend m).chain = ⟨t.chain.parts ++ m.parts, m.engine⟩ := by
  rw [chain, moves_extend, List.flatMap_append]
  simp [chain, extend]

theorem locator_extend (t : Trail) (m : Move) :
    (t.extend m).locator =
      ⟨t.locator.steps ++ [m.step], m.engine, m.selector?,
        m.selector?.map fun _ => t.locator.steps⟩ := by
  rw [locator, moves_extend, List.map_append]
  rfl

theorem scansByPosition (naming : Naming) (texts : Trail → List String) :
    (driver naming texts).ScansByPosition := by
  intro t i e h
  simp only [driver, List.getElem?_mapIdx, Option.map_eq_some_iff] at h
  obtain ⟨text, _, rfl⟩ := h
  rfl

@[simp] theorem enumerated_driver (naming : Naming) (texts : Trail → List String) (t : Trail) :
    (driver naming texts).enumerated t = texts t := by
  refine List.ext_getElem (by simp [Driver.enumerated, driver]) fun i h₁ h₂ => ?_
  simp [Driver.enumerated, driver]

/-! ## The image on chains -/

theorem chain_ofQuery (t : Trail) (jsEngine : String) (q : Query) :
    (t.extend (.ofQuery jsEngine q)).chain = Chain.all jsEngine t.chain q := by
  rw [chain_extend, Chain.all, Move.ofQuery]
  cases q.type with
  | css => rfl
  | xpath => rfl
  | js => rfl
  | cssContainingText => simp [Chain.extend, Move.parts, Move.engine]

theorem chain_related (naming : Naming) (texts : Trail → List String) (shown : Chain.Texts) :
    Driver.Related (fun (t : Trail) c => c = t.chain) (driver naming texts)
      (Chain.driver naming shown) where
  root := rfl
  locate := by
    rintro t _ rfl q multiple
    cases multiple with
    | true => exact (t.chain_ofQuery naming.jsEngine q).symm
    | false =>
        simp only [driver, Chain.driver, Bool.false_eq_true, if_false]
        rw [chain_extend, chain_ofQuery]
        rfl
  elementAt := by
    rintro t _ rfl i
    exact (t.chain_extend (.element i)).symm

theorem chain_combine? (t : Trail) (text : String) :
    t.chain.combine? text = (t.combine? text).map chain := by
  obtain ⟨before, last⟩ := t
  cases last <;> simp [Chain.combine?, combine?, chain, Move.engine, moves, Move.parts, Chain.extend]

/-! ## The image on pages -/

theorem locator_ofQuery (t : Trail) (jsEngine : String) (q : Query) :
    (t.extend (.ofQuery jsEngine q)).locator = (PageLocator.all jsEngine t.locator q).value := by
  rw [locator_extend, PageLocator.all, Move.ofQuery]
  cases q.type <;> rfl

theorem locator_related (naming : Naming) (texts : Trail → List String) (page : PageTexts) :
    Driver.Related (fun (t : Trail) l => l = t.locator) (driver naming texts)
      (PageLocator.driver naming page) where
  root := rfl
  locate := by
    rintro t _ rfl q multiple
    cases multiple with
    | true => exact (t.locator_ofQuery naming.jsEngine q).symm
    | false =>
        simp only [driver, PageLocator.driver, Bool.false_eq_true, if_false]
        rw [locator_extend, locator_ofQuery]
        rfl
  elementAt := by
    rintro t _ rfl i
    exact (t.locator_extend (.element i)).symm

theorem locator_combine? (t : Trail) (text : String) :
    (t.locator.combine? text).map Called.value = (t.combine? text).map locator := by
  obtain ⟨before, last⟩ := t
  cases last <;>
    simp [PageLocator.combine?, combine?, locator, Move.engine, Move.selector?, moves, Move.step,
      PageLocator.under]

end Trail

end PageAtlas
