import StsDelegate.Lib.Decimal

/-!
# The text format of metrics

A text of lines. A line that starts with `#` is a comment; any other line is a **sample**: a
name, labels in braces if there are any, a blank and a value, here a natural number. The value
of a label is quoted, with `\`, `"` and the end of a line escaped, so it may be any text.

`parse_document` says that what was written is read.
-/

namespace Exposition

/-- One value of a metric. -/
structure Sample where
  name : String
  labels : List (String × String)
  value : Nat
  deriving DecidableEq

/-- A line of a document. -/
inductive Line
  | comment (text : String)
  | sample (sample : Sample)

/-! ### Writing -/

def escapeChar (c : Char) : List Char :=
  if c = '\\' then ['\\', '\\'] else if c = '"' then ['\\', '"']
  else if c = '\n' then ['\\', 'n'] else [c]

def escape (cs : List Char) : List Char := cs.flatMap escapeChar

def labelChars (label : String × String) : List Char :=
  label.1.toList ++ '=' :: '"' :: (escape label.2.toList ++ ['"'])

/-- The labels after the first. -/
def moreLabels : List (String × String) → List Char
  | [] => ['}']
  | label :: labels => ',' :: (labelChars label ++ moreLabels labels)

def labelsChars : List (String × String) → List Char
  | [] => []
  | label :: labels => '{' :: (labelChars label ++ moreLabels labels)

def sampleChars (s : Sample) : List Char :=
  s.name.toList ++ (labelsChars s.labels ++ ' ' :: Decimal.displayNat s.value)

def lineChars : Line → List Char
  | .comment text => '#' :: text.toList
  | .sample s => sampleChars s

/-- A line and its end. -/
def endedLine (line : Line) : List Char := lineChars line ++ ['\n']

/-- Write the lines. -/
def document (lines : List Line) : List Char := lines.flatMap endedLine

/-! ### Reading -/

/-- The characters of names. -/
def nameChar (c : Char) : Bool := c.isAlphanum || c == '_' || c == ':'

/-- Read a quoted text up to its closing quote. -/
def readQuoted : List Char → Option (List Char × List Char)
  | [] => none
  | '"' :: rest => some ([], rest)
  | '\\' :: c :: rest =>
      (readQuoted rest).map fun read => ((if c = 'n' then '\n' else c) :: read.1, read.2)
  | c :: rest => (readQuoted rest).map fun read => (c :: read.1, read.2)

/-- Read one label. -/
def readLabel (cs : List Char) : Option ((String × String) × List Char) :=
  match cs.dropWhile nameChar with
  | '=' :: '"' :: rest =>
      (readQuoted rest).map fun read =>
        ((String.ofList (cs.takeWhile nameChar), String.ofList read.1), read.2)
  | _ => none

/-- Read labels up to the closing brace. -/
def readLabels : (fuel : Nat) → List Char → Option (List (String × String) × List Char)
  | 0, _ => none
  | fuel + 1, cs => do
      let (label, rest) ← readLabel cs
      match rest with
      | '}' :: rest => pure ([label], rest)
      | ',' :: rest =>
          let (labels, rest) ← readLabels fuel rest
          pure (label :: labels, rest)
      | _ => none

/-- Read a sample. -/
def readSample (cs : List Char) : Option Sample := do
  let name := String.ofList (cs.takeWhile nameChar)
  let (labels, rest) ← match cs.dropWhile nameChar with
    | '{' :: rest => readLabels rest.length rest
    | rest => some ([], rest)
  match rest with
  | ' ' :: digits => (Decimal.parseNat digits).map fun value => ⟨name, labels, value⟩
  | _ => none

/-- Is the line skipped? -/
def isComment (cs : List Char) : Bool := cs.isEmpty || cs.head? == some '#'

/-- Read the samples of a document. -/
def parse (cs : List Char) : Option (List Sample) :=
  ((cs.splitOnP (· == '\n')).filter fun line => !isComment line).mapM readSample

/-! ### The round trip -/

/-- A name. -/
def IsName (s : String) : Prop := s.toList ≠ [] ∧ ∀ c ∈ s.toList, nameChar c = true

instance (s : String) : Decidable (IsName s) :=
  inferInstanceAs (Decidable (s.toList ≠ [] ∧ ∀ c ∈ s.toList, nameChar c = true))

/-- The metric and its labels have names. -/
def Sample.Named (s : Sample) : Prop := IsName s.name ∧ ∀ label ∈ s.labels, IsName label.1

/-- A line that can be told from the others. -/
def Line.Proper : Line → Prop
  | .comment text => '\n' ∉ text.toList
  | .sample s => s.Named

/-! A literal is the list of its characters: what is decided here is decided of that list. -/

theorem isName_ofList {cs : List Char} (h : (!cs.isEmpty && cs.all nameChar) = true) :
    IsName (String.ofList cs) := by
  rw [Bool.and_eq_true, Bool.not_eq_true', List.all_eq_true] at h
  rw [IsName, String.toList_ofList]
  exact ⟨List.isEmpty_eq_false_iff.mp h.1, h.2⟩

theorem proper_ofList {cs : List Char} (h : '\n' ∉ cs) : (Line.comment (String.ofList cs)).Proper := by
  rwa [Line.Proper, String.toList_ofList]

theorem endedLine_ofList (cs : List Char) :
    endedLine (.comment (String.ofList cs)) = '#' :: (cs ++ ['\n']) := by
  rw [endedLine, lineChars, String.toList_ofList, List.cons_append]

theorem readQuoted_escape (cs rest : List Char) :
    readQuoted (escape cs ++ '"' :: rest) = some (cs, rest) := by
  induction cs with
  | nil => rfl
  | cons c cs ih =>
      rw [escape, List.flatMap_cons, List.append_assoc]
      rw [escape] at ih
      by_cases hbackslash : c = '\\'
      · subst hbackslash
        simp [escapeChar, readQuoted, ih]
      by_cases hquote : c = '"'
      · subst hquote
        simp [escapeChar, readQuoted, ih]
      by_cases hnewline : c = '\n'
      · subst hnewline
        simp [escapeChar, readQuoted, ih]
      · simp [escapeChar, hbackslash, hquote, hnewline, readQuoted, ih]

/-- A name is read up to the first sign that is not part of it. -/
theorem takeWhile_name {name : List Char} {c : Char} (hname : ∀ d ∈ name, nameChar d = true)
    (hc : nameChar c = false) (rest : List Char) :
    (name ++ c :: rest).takeWhile nameChar = name ∧ (name ++ c :: rest).dropWhile nameChar = c :: rest := by
  rw [List.takeWhile_append_of_pos hname, List.dropWhile_append_of_pos hname]
  simp [hc]

theorem readLabel_labelChars {label : String × String} (h : IsName label.1) (rest : List Char) :
    readLabel (labelChars label ++ rest) = some (label, rest) := by
  have hshape : labelChars label ++ rest =
      label.1.toList ++ '=' :: '"' :: (escape label.2.toList ++ '"' :: rest) := by
    simp [labelChars]
  obtain ⟨htake, hdrop⟩ := takeWhile_name h.2 (show nameChar '=' = false by decide)
    ('"' :: (escape label.2.toList ++ '"' :: rest))
  rw [readLabel, hshape, hdrop]
  simp only [readQuoted_escape, Option.map_some, htake, String.ofList_toList]

theorem readLabels_labelsChars {label : String × String} {labels : List (String × String)}
    (h : ∀ l ∈ label :: labels, IsName l.1) (rest : List Char) (fuel : Nat)
    (hfuel : labels.length < fuel) :
    readLabels fuel (labelChars label ++ (moreLabels labels ++ rest)) = some (label :: labels, rest) := by
  induction labels generalizing label fuel with
  | nil =>
      obtain ⟨fuel, rfl⟩ := Nat.exists_eq_succ_of_ne_zero (Nat.ne_of_gt hfuel)
      rw [readLabels, readLabel_labelChars (h label (List.mem_cons_self ..))]
      rfl
  | cons next labels ih =>
      obtain ⟨fuel, rfl⟩ := Nat.exists_eq_succ_of_ne_zero (Nat.ne_of_gt (Nat.zero_lt_of_lt hfuel))
      have hrest : ∀ l ∈ next :: labels, IsName l.1 := fun l hl => h l (List.mem_cons_of_mem _ hl)
      rw [readLabels, readLabel_labelChars (h label (List.mem_cons_self ..))]
      simp only [moreLabels, List.cons_append, List.append_assoc, Option.bind_eq_bind,
        Option.bind_some]
      rw [ih hrest fuel (by simpa using hfuel)]
      rfl

theorem moreLabels_length (labels : List (String × String)) :
    labels.length < (moreLabels labels).length := by
  induction labels with
  | nil => simp [moreLabels]
  | cons label labels ih =>
      simp only [moreLabels, List.length_cons, List.length_append]
      omega

theorem readSample_sampleChars {s : Sample} (h : s.Named) : readSample (sampleChars s) = some s := by
  obtain ⟨name, labels, value⟩ := s
  have hvalue := Decimal.parseNat_displayNat value
  cases labels with
  | nil =>
      obtain ⟨htake, hdrop⟩ := takeWhile_name h.1.2 (show nameChar ' ' = false by decide)
        (Decimal.displayNat value)
      simp only [readSample, sampleChars, labelsChars, List.nil_append, htake, hdrop]
      simp [hvalue]
  | cons label labels =>
      obtain ⟨htake, hdrop⟩ := takeWhile_name h.1.2 (show nameChar '{' = false by decide)
        (labelChars label ++ (moreLabels labels ++ ' ' :: Decimal.displayNat value))
      have hshape : labelsChars (label :: labels) ++ ' ' :: Decimal.displayNat value =
          '{' :: (labelChars label ++ (moreLabels labels ++ ' ' :: Decimal.displayNat value)) := by
        simp [labelsChars]
      have hfuel : labels.length <
          (labelChars label ++ (moreLabels labels ++ ' ' :: Decimal.displayNat value)).length := by
        have := moreLabels_length labels
        simp only [List.length_append]
        omega
      simp only [readSample, sampleChars, hshape, htake, hdrop,
        readLabels_labelsChars h.2 (' ' :: Decimal.displayNat value) _ hfuel]
      simp [hvalue]

/-! ### Lines -/

theorem newline_notMem_escape (cs : List Char) : '\n' ∉ escape cs := by
  intro h
  obtain ⟨c, -, hc⟩ := List.mem_flatMap.mp h
  unfold escapeChar at hc
  split at hc
  · simp at hc
  · split at hc
    · simp at hc
    · split at hc
      · simp at hc
      · next hne => exact hne (List.mem_singleton.mp hc).symm

theorem newline_notMem_name {s : String} (h : IsName s) : '\n' ∉ s.toList := fun hmem =>
  absurd (h.2 _ hmem) (by decide)

theorem newline_notMem_labelChars {label : String × String} (h : IsName label.1) :
    '\n' ∉ labelChars label := by
  simp [labelChars, newline_notMem_name h, newline_notMem_escape]

theorem newline_notMem_moreLabels {labels : List (String × String)}
    (h : ∀ l ∈ labels, IsName l.1) : '\n' ∉ moreLabels labels := by
  induction labels with
  | nil => simp [moreLabels]
  | cons label labels ih =>
      have hlabel := newline_notMem_labelChars (h label (List.mem_cons_self ..))
      have hrest := ih fun l hl => h l (List.mem_cons_of_mem _ hl)
      simp [moreLabels, hlabel, hrest]

theorem newline_notMem_lineChars {line : Line} (h : line.Proper) : '\n' ∉ lineChars line := by
  cases line with
  | comment text =>
      have htext : '\n' ∉ text.toList := h
      simp [lineChars, htext]
  | sample s =>
      obtain ⟨name, labels, value⟩ := s
      have hname := newline_notMem_name h.1
      have hvalue : '\n' ∉ Decimal.displayNat value := fun hmem =>
        absurd (Decimal.mem_displayNat hmem).2.2 (by decide)
      cases labels with
      | nil => simp_all [lineChars, sampleChars, labelsChars]
      | cons label labels =>
          have hlabel := newline_notMem_labelChars (h.2 label (List.mem_cons_self ..))
          have hrest := newline_notMem_moreLabels fun l hl => h.2 l (List.mem_cons_of_mem _ hl)
          simp_all [lineChars, sampleChars, labelsChars]

/-- The lines of a document. -/
theorem splitOnP_document {lines : List Line} (h : ∀ line ∈ lines, line.Proper) :
    (document lines).splitOnP (· == '\n') = lines.map lineChars ++ [[]] := by
  induction lines with
  | nil => rfl
  | cons line lines ih =>
      have hne : ∀ c ∈ lineChars line, (c == '\n') = false := by
        intro c hc
        rw [beq_eq_false_iff_ne]
        rintro rfl
        exact newline_notMem_lineChars (h line (List.mem_cons_self ..)) hc
      have hrest := ih fun l hl => h l (List.mem_cons_of_mem _ hl)
      rw [document] at hrest
      rw [document, List.flatMap_cons, endedLine, List.append_assoc, List.singleton_append,
        List.splitOnP_append_cons_of_forall_mem hne '\n' (beq_self_eq_true '\n'), hrest]
      rfl

/-- The samples among the lines. -/
def samples (lines : List Line) : List Sample :=
  lines.filterMap fun line =>
    match line with
    | .comment _ => none
    | .sample s => some s

theorem samples_append (lines lines' : List Line) :
    samples (lines ++ lines') = samples lines ++ samples lines' :=
  List.filterMap_append

theorem samples_map {α : Type} (f : α → Sample) (l : List α) :
    samples (l.map fun a => .sample (f a)) = l.map f := by
  simp [samples]

/-- A sample is not taken for a comment. -/
theorem isComment_sampleChars {s : Sample} (h : s.Named) : isComment (sampleChars s) = false := by
  obtain ⟨c, cs, hname⟩ := List.exists_cons_of_ne_nil h.1.1
  have hc : nameChar c = true := h.1.2 c (by rw [hname]; exact List.mem_cons_self ..)
  have hne : c ≠ '#' := by
    rintro rfl
    exact absurd hc (by decide)
  simp [isComment, sampleChars, hname, hne]

/-- **The round trip.** What was written is read. -/
theorem parse_document {lines : List Line} (h : ∀ line ∈ lines, line.Proper) :
    parse (document lines) = some (samples lines) := by
  rw [parse, splitOnP_document h, List.filter_append]
  have hempty : [([] : List Char)].filter (fun line => !isComment line) = [] := rfl
  rw [hempty, List.append_nil]
  induction lines with
  | nil => rfl
  | cons line lines ih =>
      have hrest := ih fun l hl => h l (List.mem_cons_of_mem _ hl)
      have hline := h line (List.mem_cons_self ..)
      cases line with
      | comment text => simpa [samples, lineChars, isComment] using hrest
      | sample s =>
          rw [List.map_cons, List.filter_cons_of_pos (by simp [lineChars, isComment_sampleChars hline]),
            List.mapM_cons, hrest]
          simp [samples, lineChars, readSample_sampleChars hline]

end Exposition
