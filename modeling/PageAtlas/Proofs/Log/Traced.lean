import PageAtlas.Command.Live
import PageAtlas.Proofs.Resolution.Notes
import PageAtlas.Proofs.Resolution.Related
import PageAtlas.Proofs.Text.Numeral

/-!
# What two drivers log

Whether a line can be shown depends on its marks only. Whatever two drivers
find, they fail alike along the same path, and the lines that are logged on the
way have the same marks: texts and aliases are the same, and what differs
behind them has no brackets.
-/

namespace PageAtlas

open PageAtlas.Path

/-! ## Marks -/

namespace Markup.Mark

theorem bracketed?_eq_some_iff {cs inner : List Char} :
    bracketed? cs = some inner ↔
      ∃ c name rest, cs = '[' :: c :: name ++ ']' :: rest ∧ isStart c = true ∧
        (∀ d ∈ name, isInner d = true) ∧ inner = c :: name := by
  constructor
  · intro h
    rw [bracketed?.eq_def] at h
    split at h
    next c ds =>
      split at h
      next hstart =>
        split at h
        next rest hdrop =>
          cases h
          refine ⟨c, ds.takeWhile isInner, rest, ?_, hstart, ?_, rfl⟩
          · rw [List.cons_append, List.cons_append, ← hdrop, List.takeWhile_append_dropWhile]
          · exact fun d hd => List.mem_takeWhile_imp hd
        next => cases h
      next => cases h
    next => cases h
  · rintro ⟨c, name, rest, rfl, hstart, hname, rfl⟩
    have htake : (name ++ ']' :: rest).takeWhile isInner = name := by
      rw [List.takeWhile_append_of_pos hname]
      simp [isInner]
    have hdrop : (name ++ ']' :: rest).dropWhile isInner = ']' :: rest := by
      rw [List.dropWhile_append_of_pos hname]
      simp [isInner]
    rw [List.cons_append, List.cons_append, bracketed?, if_pos hstart, hdrop, htake]
    rfl

/-- Without brackets nothing is closed that is opened before. -/
theorem bracketed?_append {after : List Char} (h : ∀ d ∈ after, isInner d = true)
    (cs : List Char) : bracketed? (cs ++ after) = bracketed? cs := by
  have hclosing : ']' ∉ after := fun hmem => absurd (h ']' hmem) (by decide)
  refine Option.ext fun inner => ?_
  rw [bracketed?_eq_some_iff, bracketed?_eq_some_iff]
  constructor
  · rintro ⟨c, name, rest, heq, hstart, hname, rfl⟩
    rcases List.append_eq_append_iff.1 heq with ⟨more, -, rfl⟩ | ⟨more, rfl, hmore⟩
    · exact absurd (List.mem_append_right more List.mem_cons_self) hclosing
    · cases more with
      | nil =>
          rw [List.nil_append] at hmore
          exact absurd (hmore ▸ List.mem_cons_self) hclosing
      | cons e more =>
          obtain ⟨rfl, -⟩ := List.cons.inj hmore
          exact ⟨c, name, more, rfl, hstart, hname, rfl⟩
  · rintro ⟨c, name, rest, rfl, hstart, hname, rfl⟩
    exact ⟨c, name, rest ++ after, by simp, hstart, hname, rfl⟩

theorem scan_of_inner {cs : List Char} (h : ∀ c ∈ cs, isInner c = true) (position slashes : Nat) :
    scan position slashes cs = [] := by
  induction cs generalizing position slashes with
  | nil => rfl
  | cons c cs ih =>
      have hcs := ih fun d hd => h d (List.mem_cons_of_mem c hd)
      have hbracketed : bracketed? (c :: cs) = none := bracketed?_append h []
      rw [scan, hbracketed, hcs, hcs, ite_self]

theorem scan_append {after : List Char} (h : ∀ c ∈ after, isInner c = true) (cs : List Char)
    (position slashes : Nat) :
    scan position slashes (cs ++ after) = scan position slashes cs := by
  induction cs generalizing position slashes with
  | nil => exact scan_of_inner h position slashes
  | cons c cs ih =>
      rw [List.cons_append, scan, scan, ← List.cons_append, bracketed?_append h,
        ih, ih]

theorem all_append {text after : String} (h : after.toList.all isInner = true) :
    all (text ++ after) = all text := by
  rw [all, String.toList_append]
  exact scan_append (List.all_eq_true.1 h) text.toList 0 0

end Markup.Mark

/-! ## Lines -/

theorem Text.Numeral.all_isInner_ofNat (n : Nat) :
    (ofNat n).toList.all Markup.Mark.isInner = true := by
  refine List.all_eq_true.2 fun c h => ?_
  rw [ofNat, String.toList_ofList] at h
  obtain ⟨hlow, hhigh⟩ := isDigit_iff.1 (isDigit_of_mem_toDigits h)
  have hopening : c ≠ '[' := by
    rintro rfl
    exact absurd hhigh (by decide)
  have hclosing : c ≠ ']' := by
    rintro rfl
    exact absurd hhigh (by decide)
  simp [Markup.Mark.isInner, hopening, hclosing]

namespace Event

/-- The marks of a line, in which the time that something took plays no part. -/
def marks (e : Event) : List Markup.Mark := Markup.Mark.all (e.message "")

def matchText (text : String) : String := "text match " ++ Text.quoted text

theorem marks_combined (text : String) :
    (combined text).marks = Markup.Mark.all (matchText text) :=
  Markup.Mark.all_append (by rfl)

theorem marks_foundAt (text : String) (position : Nat) :
    (foundAt text position).marks = Markup.Mark.all (matchText text) := by
  rw [marks, message, Markup.Mark.all_append (by rfl),
    Markup.Mark.all_append (Text.Numeral.all_isInner_ofNat _), Markup.Mark.all_append (by rfl)]
  rfl

theorem marks_unmatched (text : String) (scanned : Nat) :
    (unmatched text scanned).marks = Markup.Mark.all (matchText text) := by
  rw [marks, message, Markup.Mark.all_append (by rfl),
    Markup.Mark.all_append (Text.Numeral.all_isInner_ofNat _), Markup.Mark.all_append (by rfl)]
  rfl

end Event

/-! ## Two runs side by side -/

namespace Run

variable {α β γ δ : Type} {R : α → β → Prop} {S : γ → δ → Prop}

def marks (x : Run α) : List (List Markup.Mark) := x.notes.filterMap fun
  | .event e => some e.marks
  | _ => none

@[simp] theorem marks_log (e : Event) : (log e).marks = [e.marks] := rfl

@[simp] theorem marks_called (c : Called α) : (called c).marks = [] := by
  rw [marks, called, List.filterMap_map]
  exact List.filterMap_eq_nil_iff.2 fun _ _ => rfl

theorem marks_bind_of_ok {x : Run α} {f : α → Run β} {a : α} (h : x.result = .ok a) :
    (x >>= f).marks = x.marks ++ (f a).marks :=
  filterMap_notes_bind_of_ok _ h

theorem marks_bind_of_error {x : Run α} {f : α → Run β} {e : Failure}
    (h : x.result = .error e) : (x >>= f).marks = x.marks := by
  rw [bind_of_error h]
  rfl

/-- Two runs that fail alike or yield related values, and log lines with the same
marks. -/
structure Twins (R : α → β → Prop) (x : Run α) (y : Run β) : Prop where
  result : Alike R x.result y.result
  marks : x.marks = y.marks

namespace Twins

theorem pure {a : α} {b : β} (h : R a b) : Twins R (Pure.pure a : Run α) (Pure.pure b : Run β) :=
  ⟨.ok h, rfl⟩

theorem fail (e : Failure) : Twins R (fail e : Run α) (fail e : Run β) := ⟨.error e, rfl⟩

theorem log {e e' : Event} (h : e.marks = e'.marks) :
    Twins (fun _ _ => True) (log e) (log e') :=
  ⟨.ok trivial, congrArg (fun m => [m]) h⟩

theorem called (c : Called α) (c' : Called β) (h : R c.value c'.value) :
    Twins R (called c) (called c') :=
  ⟨.ok h, by rw [marks_called, marks_called]⟩

theorem refl (x : Run α) : Twins Eq x x := by
  refine ⟨?_, rfl⟩
  cases x.result with
  | error e => exact .error e
  | ok a => exact .ok rfl

theorem bind {x : Run α} {y : Run β} (h : Twins R x y) {f : α → Run γ} {k : β → Run δ}
    (hk : ∀ a b, R a b → Twins S (f a) (k b)) : Twins S (x >>= f) (y >>= k) := by
  refine ⟨?_, ?_⟩
  · rw [result_bind, result_bind]
    exact h.result.bind fun a b hab => (hk a b hab).result
  · have hresult := h.result
    cases hx : x.result with
    | error e =>
        have hy : y.result = .error e := (hresult.error_iff e).1 hx
        rw [marks_bind_of_error hx, marks_bind_of_error hy, h.marks]
    | ok a =>
        cases hy : y.result with
        | error e =>
            rw [hx, hy] at hresult
            cases hresult
        | ok b =>
            rw [hx, hy] at hresult
            rw [marks_bind_of_ok hx, marks_bind_of_ok hy, h.marks, (hk a b hresult.related).marks]

end Twins

end Run

/-! ## Two drivers on one path -/

namespace TextMatch

variable {L : Type} (d : Driver L)

theorem marks_scan (collection : L) (wanted : String) (scanned : Nat) (es : List (Candidate L)) :
    (scan d collection wanted scanned es).marks =
      [Markup.Mark.all (Event.matchText wanted)] := by
  induction es generalizing scanned with
  | nil =>
      rw [scan, fallback, Run.marks_bind_of_ok rfl, Run.marks_log, Event.marks_unmatched,
        Run.marks_bind_of_ok rfl, Run.marks_called]
      rfl
  | cons e es ih =>
      rw [scan, Run.marks_bind_of_ok rfl, Run.marks_called]
      split
      · rw [Run.marks_bind_of_ok rfl, Run.marks_log, Event.marks_foundAt]
        rfl
      · exact ih (scanned + 1)

/-- A match by text logs one line, whatever comes of it. -/
theorem marks_find (combine : Bool) (collection : L) (wanted : String) :
    (find d combine collection wanted).marks =
      [Markup.Mark.all (Event.matchText wanted)] := by
  rw [find]
  split
  · rw [Run.marks_bind_of_ok rfl, Run.marks_called, Run.marks_bind_of_ok rfl, Run.marks_log,
      Event.marks_combined]
    rfl
  · rw [Run.marks_bind_of_ok rfl, Run.marks_called]
    exact marks_scan d collection wanted 0 _

end TextMatch

namespace Walk

variable {ν L M : Type} (g : Graph ν) (d : Driver L) (d' : Driver M) (o : Options)

/-- Frames at one node with one cardinality, both with a locator or both without. -/
abbrev Paired (f : Frame ν L) (f' : Frame ν M) : Prop := Frame.Related (fun _ _ => True) f f'

variable {f : Frame ν L} {f' : Frame ν M}

theorem locate_twins (hf : Paired f f') (n : Node ν) (multiple : Bool) :
    Run.Twins (fun _ _ => True) (locate g d f n multiple) (locate g d' f' n multiple) := by
  have hscope : Run.Twins (fun _ _ => True) (scope d f) (scope d' f') := by
    rw [scope, scope]
    obtain ⟨l, n, b⟩ := f
    obtain ⟨l', n', b'⟩ := f'
    cases hf.locator with
    | none => exact .called d.root d'.root trivial
    | some _ => exact .pure trivial
  refine hscope.bind fun under under' _ => ?_
  refine (Run.Twins.refl (Run.ofExcept (g.query n))).bind fun _ _ _ => ?_
  exact .called _ _ trivial

theorem plain_twins (hf : Paired f f') (n : Node ν) :
    Run.Twins Paired (plain g d o f n) (plain g d' o f' n) := by
  rw [plain, plain, ← hf.node, ← hf.multiple]
  split
  · refine (Run.Twins.log rfl).bind fun _ _ _ => ?_
    exact .pure ⟨hf.locator, rfl, rfl⟩
  · split
    · exact .fail _
    · refine (locate_twins g d d' hf n _).bind fun l l' _ => ?_
      refine (Run.Twins.log rfl).bind fun _ _ _ => ?_
      exact .pure ⟨.some trivial, rfl, rfl⟩

theorem write_twins (i : Int) : Run.Twins (fun _ _ => True) (write i) (write i) := by
  rw [write]
  split
  · exact .fail _
  · exact .pure trivial

theorem pick_twins (name : String) (collection : L) (collection' : M) (p : Pick) :
    Run.Twins (fun _ _ => True) (pick d o name collection p) (pick d' o name collection' p) := by
  cases p with
  | index i =>
      refine (write_twins i).bind fun _ _ _ => (Run.Twins.log rfl).bind fun _ _ _ => ?_
      exact (write_twins _).bind fun _ _ _ => .pure trivial
  | text wanted =>
      refine (Run.Twins.log rfl).bind fun _ _ _ => ⟨?_, ?_⟩
      · rw [TextMatch.find_result, TextMatch.find_result]
        exact .ok trivial
      · rw [TextMatch.marks_find, TextMatch.marks_find]

theorem picked_twins (hf : Paired f f') (n : Node ν) (name : String) (p : Pick) :
    Run.Twins Paired (picked g d o f n name p) (picked g d' o f' n name p) := by
  rw [picked, picked]
  split
  · exact .fail _
  · refine (locate_twins g d d' hf n true).bind fun collection collection' _ => ?_
    refine (pick_twins d d' o name collection collection' p).bind fun l l' _ => ?_
    exact .pure ⟨.some trivial, rfl, rfl⟩

theorem step_twins (hf : Paired f f') (hop : Hop) :
    Run.Twins Paired (step g d o f hop) (step g d' o f' hop) := by
  rw [step, step, ← hf.node]
  refine (Run.Twins.refl (Walk.lookup g f.node hop.name)).bind ?_
  rintro n _ rfl
  cases hop with
  | plain name => exact plain_twins g d d' o hf n
  | picked name p => exact picked_twins g d d' o hf n name p

theorem tokens_twins (hf : Paired f f') (ts : List String) :
    Run.Twins Paired (tokens g d o f ts) (tokens g d' o f' ts) := by
  induction ts generalizing f f' with
  | nil => exact .pure hf
  | cons t ts ih =>
      refine (Run.Twins.refl (Run.ofExcept (Hop.parse t))).bind ?_
      rintro hop _ rfl
      exact (step_twins g d d' o hf hop).bind fun _ _ hf₁ => ih hf₁

end Walk

/-- Whatever two drivers find, a path fails alike on both, and what is logged has
the same marks. -/
theorem resolvePath_twins {ν L M : Type} (g : Graph ν) (d : Driver L) (d' : Driver M)
    (o : Options) (root : ν) (path : String) :
    Run.Twins (Option.Rel fun _ _ => True) (resolvePath g d o root path)
      (resolvePath g d' o root path) := by
  refine (Walk.tokens_twins g d d' o (Walk.start_related root) (tokens path)).bind ?_
  intro f f' hf
  rw [Walk.finish, Walk.finish]
  split
  · exact .fail _
  · exact (Run.Twins.log rfl).bind fun _ _ _ => .pure hf.locator

/-! ## Lines that cannot be logged -/

theorem Run.cut?_eq_none_iff {ε : Type} {fault? : Event → Option ε} {notes : List Note} :
    cut? fault? notes = none ↔ ∀ e, .event e ∈ notes → fault? e = none := by
  induction notes with
  | nil => simp [cut?]
  | cons n notes ih =>
      cases n with
      | event e =>
          rw [cut?]
          cases he : fault? e with
          | some x => simp [he]
          | none => simp [he, ih]
      | lookup name => simp [cut?, ih]
      | call c => simp [cut?, ih]

namespace Logging

variable {α β : Type} {R : α → β → Prop} {x : Run α} {y : Run β} (l : Logging)

theorem traceFault?_congr {m m' : String} (h : Markup.Mark.all m = Markup.Mark.all m') :
    l.traceFault? m = l.traceFault? m' := by
  rw [traceFault?, traceFault?, Markup.fault?, Markup.fault?, h]

/-- Runs that log lines with the same marks are cut short alike. -/
theorem cut?_eq_none_of_marks (h : x.marks = y.marks) (hx : l.cut? x.notes = none) :
    l.cut? y.notes = none := by
  rw [cut?, Run.cut?_eq_none_iff] at hx ⊢
  intro e he
  have hmarks : e.marks ∈ x.marks := by
    rw [h]
    exact List.mem_filterMap.2 ⟨.event e, he, rfl⟩
  obtain ⟨n, hn, hsame⟩ := List.mem_filterMap.1 hmarks
  cases n with
  | lookup name => cases hsame
  | call c => cases hsame
  | event e' =>
      rw [← l.traceFault?_congr (Option.some.inj hsame)]
      exact hx e' hn

end Logging

end PageAtlas
