import PageAtlas.Proofs.Ordered
import PageAtlas.Proofs.Text.Blank
import PageAtlas.Proofs.Text.Split
import PageAtlas.Settings.Dotenv

/-!
# Files of plain assignments

Each line assigns a value to a name or is blank. A value is bare, or it stands between
quotes and holds neither these quotes nor a backslash. If no value has a reference in it
and no name is assigned twice, such a file is read as its assignments, one by one.
-/

namespace PageAtlas

namespace Dotenv

/-- What stands behind an equals sign up to the end of the line, and the value that it
gives: a bare text without the blanks around it, or the text between quotes. -/
inductive Gives : List Char → List Char → Prop
  | bare {raw : List Char} (hline : ∀ c ∈ raw, isLineEnd c = false)
      (hquote : ∀ c ∈ (skipGap raw).head?, c ≠ '\'' ∧ c ≠ '"')
      (hcomment : ∀ c, Text.isBlank c = true → ¬ [c, '#'] <:+: raw) : Gives raw (Text.trim raw)
  | quoted {quote : Char} {pad body pad' : List Char} (hquote : quote = '\'' ∨ quote = '"')
      (hpad : ∀ c ∈ pad, isGap c = true) (hpad' : ∀ c ∈ pad', isGap c = true)
      (hbody : ∀ c ∈ body, c ≠ quote ∧ c ≠ '\\' ∧ isLineEnd c = false) :
      Gives (pad ++ quote :: (body ++ quote :: pad')) body

/-- A line assigns a value to a name. -/
inductive Assigns : List Char → String × String → Prop
  | intro {name raw value : List Char} (hne : name ≠ [])
      (hname : ∀ c ∈ name, isNameChar c = true) (hquote : name.head? ≠ some '\'')
      (hvalue : Gives raw value) :
      Assigns (name ++ '=' :: raw) (String.ofList name, String.ofList value)

/-- Lines with their assignments; a blank line has none. -/
inductive Lines : List (List Char) → List (String × String) → Prop
  | nil : Lines [] []
  | blank {line : List Char} {lines : List (List Char)} {vars : List (String × String)}
      (hline : Text.allBlank line = true) (h : Lines lines vars) : Lines (line :: lines) vars
  | assignment {line : List Char} {lines : List (List Char)} {var : String × String}
      {vars : List (String × String)} (hline : Assigns line var) (h : Lines lines vars) :
      Lines (line :: lines) (var :: vars)

/-- What a file assigns, line by line. Without a file nothing is assigned. -/
inductive FileAssigns : Option (List UInt8) → List (String × String) → Prop
  | absent : FileAssigns none []
  | lines {bytes : List UInt8} {text : String} {vars : List (String × String)}
      (htext : Dotenv.text bytes = .ok text) (h : Lines (Text.split '\n' text.toList) vars) :
      FileAssigns (some bytes) vars

/-! ## One line -/

inductive Ends : List Char → List Char → Prop
  | last : Ends [] []
  | break (next : List Char) : Ends ('\n' :: next) next

variable {name raw value pad cs rest next : List Char}

theorem skipGap_append (hpad : ∀ c ∈ pad, isGap c = true) (cs : List Char) :
    skipGap (pad ++ cs) = skipGap cs := List.dropWhile_append_of_pos hpad

theorem Ends.skipGap_eq (h : Ends rest next) : skipGap rest = rest := by
  cases h <;> rfl

theorem lineEnd?_of_ends (hpad : ∀ c ∈ pad, isGap c = true) (h : Ends rest next) :
    lineEnd? (pad ++ rest) = some next := by
  have hskip : skipGap (pad ++ rest) = rest := (skipGap_append hpad rest).trans h.skipGap_eq
  rw [lineEnd?]
  cases h with
  | last => simp only [hskip]
  | «break» next => simp [hskip, isLineEnd]

theorem takeWhile_line (hraw : ∀ c ∈ raw, isLineEnd c = false) (h : Ends rest next) :
    (raw ++ rest).takeWhile (fun c => !isLineEnd c) = raw := by
  rw [List.takeWhile_append_of_pos fun c hc => by rw [hraw c hc, Bool.not_false]]
  cases h with
  | last => simp
  | «break» next => simp [isLineEnd]

theorem dropWhile_line (hraw : ∀ c ∈ raw, isLineEnd c = false) (h : Ends rest next) :
    (raw ++ rest).dropWhile (fun c => !isLineEnd c) = rest := by
  rw [List.dropWhile_append_of_pos fun c hc => by rw [hraw c hc, Bool.not_false]]
  cases h with
  | last => simp
  | «break» next => simp [isLineEnd]

-- The last of the blanks in front of a hash stands right before it.
theorem exists_blank_before_hash {c : Char} (hc : Text.isBlank c = true)
    (h : (cs.dropWhile Text.isBlank).head? = some '#') :
    ∃ d, Text.isBlank d = true ∧ [d, '#'] <:+: c :: cs := by
  induction cs generalizing c with
  | nil => cases h
  | cons e cs ih =>
      by_cases he : Text.isBlank e = true
      · rw [List.dropWhile_cons_of_pos he] at h
        obtain ⟨d, hd, hin⟩ := ih he h
        exact ⟨d, hd, hin.trans (List.suffix_cons c (e :: cs)).isInfix⟩
      · rw [List.dropWhile_cons_of_neg he] at h
        obtain rfl : e = '#' := Option.some.inj h
        exact ⟨c, hc, (List.prefix_append [c, '#'] cs).isInfix⟩

theorem uncommented_eq_self (h : ∀ c, Text.isBlank c = true → ¬ [c, '#'] <:+: cs) :
    uncommented cs = cs := by
  induction cs with
  | nil => rfl
  | cons c cs ih =>
      have hcs : uncommented cs = cs :=
        ih fun d hd hin => h d hd (hin.trans (List.suffix_cons c cs).isInfix)
      rw [uncommented, hcs, if_neg]
      rw [Bool.and_eq_true, beq_iff_eq]
      rintro ⟨hc, hhash⟩
      obtain ⟨d, hd, hin⟩ := exists_blank_before_hash hc hhash
      exact h d hd hin

/-! ## Values -/

theorem unescape_eq_self {read : Char → Option Char} (h : ∀ c ∈ cs, c ≠ '\\') :
    unescape read cs = cs := by
  fun_induction unescape read cs with
  | case1 => rfl
  | case2 c => rfl
  | case3 c d cs x hx ih =>
      have hc : c ≠ '\\' := h c List.mem_cons_self
      simp [hc] at hx
  | case4 c d cs hnone ih => rw [ih fun e he => h e (List.mem_cons_of_mem c he)]

theorem quoted?_append {quote : Char} {body : List Char} (hquote : quote ≠ '\\')
    (h : ∀ c ∈ body, c ≠ quote ∧ c ≠ '\\') (rest : List Char) :
    quoted? quote (body ++ quote :: rest) = some (body, rest) := by
  induction body with
  | nil =>
      rw [List.nil_append, quoted?, if_pos rfl]
      exact fun _ _ heq => absurd heq hquote
  | cons c body ih =>
      obtain ⟨hc, hback⟩ := h c List.mem_cons_self
      rw [List.cons_append, quoted?, if_neg hc, if_neg hback,
        ih fun d hd => h d (List.mem_cons_of_mem c hd)]
      · rfl
      · exact fun _ _ heq => absurd heq hback

theorem value?_of_bare (h : ∀ c ∈ (skipGap cs).head?, c ≠ '\'' ∧ c ≠ '"') :
    value? cs = some (Text.trim (uncommented (cs.takeWhile fun c => !isLineEnd c)),
      cs.dropWhile fun c => !isLineEnd c) := by
  rw [value?]
  split
  next hcs =>
    rw [hcs] at h
    exact absurd rfl (h _ rfl).1
  next hcs =>
    rw [hcs] at h
    exact absurd rfl (h _ rfl).2
  next => rfl

/-- A value is read up to the end of its line. -/
theorem Gives.read (h : Gives raw value) (hends : Ends rest next) :
    ∃ back, value? (raw ++ rest) = some (value, back) ∧ lineEnd? back = some next := by
  cases h with
  | bare hline hquote hcomment =>
      have hbare : ∀ c ∈ (skipGap (raw ++ rest)).head?, c ≠ '\'' ∧ c ≠ '"' := by
        rw [skipGap, List.dropWhile_append]
        split
        · cases hends with
          | last => exact nofun
          | «break» next => simp [isGap, isLineEnd]
        next hgap =>
          rw [List.isEmpty_iff] at hgap
          rw [List.head?_append_of_ne_nil _ hgap]
          exact hquote
      refine ⟨rest, ?_, lineEnd?_of_ends (List.forall_mem_nil _) hends⟩
      rw [value?_of_bare hbare, takeWhile_line hline hends, dropWhile_line hline hends,
        uncommented_eq_self hcomment]
  | @quoted quote pad _ pad' hquote hpad hpad' hbody =>
      refine ⟨pad' ++ rest, ?_, lineEnd?_of_ends hpad' hends⟩
      have hback : ∀ c ∈ value, c ≠ '\\' := fun c hc => (hbody c hc).2.1
      have hquoted : ∀ c ∈ value, c ≠ quote ∧ c ≠ '\\' := fun c hc =>
        ⟨(hbody c hc).1, (hbody c hc).2.1⟩
      have hskip : skipGap (pad ++ quote :: (value ++ quote :: pad') ++ rest) =
          quote :: (value ++ quote :: (pad' ++ rest)) := by
        have hgap : isGap quote = false := by rcases hquote with rfl | rfl <;> decide
        rw [List.append_assoc, skipGap_append hpad, List.cons_append, List.append_assoc,
          List.cons_append, skipGap, List.dropWhile_cons_of_neg (by rw [hgap]; exact nofun)]
      have hne : quote ≠ '\\' := by rcases hquote with rfl | rfl <;> decide
      have hread := quoted?_append hne hquoted (pad' ++ rest)
      rw [value?, hskip]
      rcases hquote with rfl | rfl
      · simp only [hread, Option.map_some, unescape_eq_self hback]
      · simp only [hread, Option.map_some, unescape_eq_self hback]

/-! ## Lines -/

theorem isBlank_of_isNameChar {c : Char} (h : isNameChar c = true) : Text.isBlank c = false := by
  rw [isNameChar, Bool.not_eq_true', Bool.or_eq_false_iff] at h
  exact h.2

theorem isGap_of_isNameChar {c : Char} (h : isNameChar c = true) : isGap c = false := by
  rw [isGap, isBlank_of_isNameChar h, Bool.false_and]

/-- A name does not end at a gap, so the word in front of assignments may be one. -/
theorem skipExport_of_name (hname : ∀ c ∈ name, isNameChar c = true) (cs : List Char) :
    skipExport (name ++ '=' :: cs) = name ++ '=' :: cs := by
  unfold skipExport
  split
  next c rest heq =>
    have hword : name ++ '=' :: cs = ['e', 'x', 'p', 'o', 'r', 't'] ++ c :: rest := heq
    rw [if_neg]
    rw [Bool.not_eq_true]
    rcases List.append_eq_append_iff.1 hword with ⟨more, hmem, hmore⟩ | ⟨more, rfl, hmore⟩
    · cases more with
      | nil =>
          obtain rfl : '=' = c := (List.cons.inj hmore).1
          rfl
      | cons d more =>
          obtain rfl : '=' = d := (List.cons.inj hmore).1
          have hequals : '=' ∈ ['e', 'x', 'p', 'o', 'r', 't'] := by
            rw [hmem]
            exact List.mem_append_right name List.mem_cons_self
          exact absurd hequals (by decide)
    · cases more with
      | nil =>
          obtain rfl : c = '=' := (List.cons.inj hmore).1
          rfl
      | cons d more =>
          obtain rfl : c = d := (List.cons.inj hmore).1
          exact isGap_of_isNameChar
            (hname c (List.mem_append_right _ List.mem_cons_self))
  next => rfl

theorem name?_append (hne : name ≠ []) (hname : ∀ c ∈ name, isNameChar c = true)
    (hquote : name.head? ≠ some '\'') (cs : List Char) :
    name? (name ++ '=' :: cs) = some (some name, '=' :: cs) := by
  have htake : (name ++ '=' :: cs).takeWhile isNameChar = name := by
    rw [List.takeWhile_append_of_pos hname, List.takeWhile_cons_of_neg (by decide),
      List.append_nil]
  have hdrop : (name ++ '=' :: cs).dropWhile isNameChar = '=' :: cs := by
    rw [List.dropWhile_append_of_pos hname, List.dropWhile_cons_of_neg (by decide)]
  obtain ⟨c, name, rfl⟩ := List.exists_cons_of_ne_nil hne
  have hc : isNameChar c = true := hname c List.mem_cons_self
  unfold name?
  split
  next heq =>
    obtain rfl : c = '#' := (List.cons.inj heq).1
    exact absurd hc (by decide)
  next heq =>
    obtain rfl : c = '\'' := (List.cons.inj heq).1
    exact absurd rfl hquote
  next =>
    rw [htake, hdrop]
    rfl

/-- An assignment is read up to the end of its line. -/
theorem line_of_assigns {text : List Char} {var : String × String} (h : Assigns text var)
    (hends : Ends rest next) : line (text ++ rest) = (some ⟨var.1, some var.2⟩, next) := by
  obtain ⟨hne, hname, hquote, hvalue⟩ := h
  obtain ⟨back, hread, hback⟩ := hvalue.read hends
  have hskip (cs : List Char) : skipGap ('=' :: cs) = '=' :: cs :=
    List.dropWhile_cons_of_neg (by decide)
  rw [line, List.append_assoc, List.cons_append, skipExport_of_name hname,
    name?_append hne hname hquote]
  simp only [hskip, hread, hback, Option.map_some]

theorem Assigns.exists_cons {text : List Char} {var : String × String} (h : Assigns text var) :
    ∃ c cs, text = c :: cs ∧ Text.isBlank c = false := by
  obtain ⟨hne, hname, -, -⟩ := h
  obtain ⟨c, name, rfl⟩ := List.exists_cons_of_ne_nil hne
  exact ⟨c, _, rfl, isBlank_of_isNameChar (hname c List.mem_cons_self)⟩

theorem bindings_append {pad : List Char} (hpad : Text.allBlank pad = true) (fuel : Nat)
    (cs : List Char) : bindings fuel (pad ++ cs) = bindings fuel cs := by
  cases fuel with
  | zero => rfl
  | succ fuel =>
      rw [bindings, bindings, List.dropWhile_append_of_pos (List.all_eq_true.1 hpad)]

theorem bindings_of_assigns {text : List Char} {var : String × String} (h : Assigns text var)
    (hends : Ends rest next) (fuel : Nat) :
    bindings (fuel + 1) (text ++ rest) = ⟨var.1, some var.2⟩ :: bindings fuel next := by
  obtain ⟨c, cs, rfl, hc⟩ := h.exists_cons
  have hline := line_of_assigns h hends
  rw [List.cons_append] at hline ⊢
  rw [bindings, List.dropWhile_cons_of_neg (by rw [hc]; exact nofun)]
  simp only [hline]
  rfl

theorem bindings_nil (fuel : Nat) : bindings fuel [] = [] := by
  cases fuel <;> rfl

/-- The lines of a text are read one by one. -/
theorem bindings_of_lines {lines : List (List Char)} {vars : List (String × String)}
    (h : Lines lines vars) (hsplit : Text.split '\n' cs = lines) {fuel : Nat}
    (hfuel : cs.length < fuel) :
    bindings fuel cs = vars.map fun e => ⟨e.1, some e.2⟩ := by
  induction h generalizing cs fuel with
  | nil => exact absurd hsplit (Text.split_ne_nil '\n' cs)
  | @blank line lines vars hline h ih =>
      rcases Text.exists_of_split_eq_cons hsplit with ⟨rfl, rfl⟩ | ⟨rest, rfl, hrest⟩
      · cases h
        rw [← List.append_nil cs, bindings_append hline, bindings_nil]
        rfl
      · have hpad : Text.allBlank (line ++ ['\n']) = true := by
          rw [Text.allBlank_append, hline]
          rfl
        rw [List.append_cons, bindings_append hpad]
        apply ih hrest
        simp only [List.length_append, List.length_cons] at hfuel
        omega
  | @assignment line lines var vars hline h ih =>
      obtain ⟨fuel, rfl⟩ : ∃ n, fuel = n + 1 := ⟨fuel - 1, by omega⟩
      rcases Text.exists_of_split_eq_cons hsplit with ⟨rfl, rfl⟩ | ⟨rest, rfl, hrest⟩
      · cases h
        have hread := bindings_of_assigns hline Ends.last fuel
        rw [List.append_nil] at hread
        rw [hread, bindings_nil]
        rfl
      · rw [bindings_of_assigns hline (Ends.break rest), ih hrest]
        · rfl
        · simp only [List.length_append, List.length_cons] at hfuel
          omega

/-! ## Values without references -/

theorem reference?_eq_none (h : ¬ ['$', '\x7b'] <+: cs) : reference? cs = none := by
  unfold reference?
  split
  next rest => exact absurd (List.prefix_append ['$', '\x7b'] rest) h
  next => rfl

theorem expand_eq_self (lookup : String → Option String) (h : ¬ ['$', '\x7b'] <:+: cs) {fuel : Nat}
    (hfuel : cs.length < fuel) : expand lookup fuel cs = cs := by
  induction cs generalizing fuel with
  | nil => cases fuel <;> rfl
  | cons c cs ih =>
      obtain ⟨fuel, rfl⟩ : ∃ n, fuel = n + 1 := ⟨fuel - 1, by omega⟩
      have hcs : ¬ ['$', '\x7b'] <:+: cs := fun hin =>
        h (hin.trans (List.suffix_cons c cs).isInfix)
      have hnone : reference? (c :: cs) = none := reference?_eq_none fun hpre => h hpre.isInfix
      rw [expand, hnone]
      simp only
      rw [ih hcs]
      rw [List.length_cons] at hfuel
      omega

theorem assign_of_plain (env : Environment) (before : Ordered String (Option String))
    {var : String × String} (h : ¬ ['$', '\x7b'] <:+: var.2.toList) :
    assign env before ⟨var.1, some var.2⟩ = before.insert var.1 (some var.2) := by
  have hlength : var.2.toList.length < var.2.length + 1 := by
    rw [String.length_toList]
    exact Nat.lt_succ_self _
  have hexpand := expand_eq_self (visible env before) h hlength
  simp only [assign, Option.map_some, hexpand, String.ofList_toList]

/-- A file of plain assignments is read as they stand. -/
theorem read_of_lines (env : Environment) {text : String} {vars : List (String × String)}
    (h : Lines (Text.split '\n' text.toList) vars) (hnodup : (vars.map Prod.fst).Nodup)
    (hplain : ∀ e ∈ vars, ¬ ['$', '\x7b'] <:+: e.2.toList) :
    Dotenv.read env text = vars.map fun e => (e.1, some e.2) := by
  have hbindings := bindings_of_lines h rfl (Nat.lt_succ_self text.toList.length)
  have hfold (before : Ordered String (Option String)) :
      (vars.map fun e => (⟨e.1, some e.2⟩ : Binding)).foldl (assign env) before =
        before.update (vars.map fun e => (e.1, some e.2)) := by
    rw [Ordered.update, List.foldl_map, List.foldl_map]
    exact List.foldl_ext _ _ _ fun before e he => assign_of_plain env before (hplain e he)
  have hkeys : (Ordered.keys (vars.map fun e => (e.1, some e.2))).Nodup := by
    rwa [Ordered.keys, List.map_map]
  change ((bindings (text.toList.length + 1) text.toList).foldl (assign env) []) = _
  rw [hbindings, hfold]
  exact Ordered.ofList_of_nodup hkeys

end Dotenv

end PageAtlas
