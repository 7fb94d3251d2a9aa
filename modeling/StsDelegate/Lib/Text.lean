import Mathlib.Data.List.DropRight
import Mathlib.Data.List.TakeWhile
import Mathlib.Data.String.Basic

/-!
# Text

The string operations of Rust's standard library that request handling leans on:
`trim`, `split_whitespace`, `trim_end_matches`, `split`, `contains`, `len`,
`as_bytes`, `to_ascii_lowercase` and the `{:?}` rendering. A `str` is Lean's
`String` (both are sequences of Unicode scalar values); operations that look at
characters go through the list of them, so that lemmas are about lists.

The **words** of a text are its maximal runs without whitespace. The main fact
about them is `splitWhitespace_joinWith`: words joined by single spaces are found
again by splitting, which is what makes space separated sets well defined.
-/

namespace Text

/-- Raw octets. -/
abbrev Bytes : Type := List UInt8

/-- Two places of a list are the same, or one comes before the other. -/
theorem append_cons_eq {α : Type} {xs ys xs' ys' : List α} {x x' : α}
    (h : xs ++ x :: ys = xs' ++ x' :: ys') :
    (xs = xs' ∧ x = x' ∧ ys = ys') ∨ (∃ rest, xs' = xs ++ x :: rest ∧ ys = rest ++ x' :: ys') ∨
      ∃ rest, xs = xs' ++ x' :: rest ∧ ys' = rest ++ x :: ys := by
  induction xs generalizing xs' with
  | nil =>
      cases xs' with
      | nil =>
          obtain ⟨hx, hys⟩ := List.cons.inj h
          exact Or.inl ⟨rfl, hx, hys⟩
      | cons c xs' =>
          obtain ⟨hx, hys⟩ := List.cons.inj h
          exact Or.inr (Or.inl ⟨xs', by rw [hx]; rfl, hys⟩)
  | cons c xs ih =>
      cases xs' with
      | nil =>
          obtain ⟨hx, hys⟩ := List.cons.inj h
          exact Or.inr (Or.inr ⟨xs, by rw [hx]; rfl, hys.symm⟩)
      | cons c' xs' =>
          obtain ⟨hc, hrest⟩ := List.cons.inj h
          subst hc
          rcases ih hrest with ⟨hxs, hx, hys⟩ | ⟨rest, hlonger, hys⟩ | ⟨rest, hlonger, hys⟩
          · exact Or.inl ⟨by rw [hxs], hx, hys⟩
          · exact Or.inr (Or.inl ⟨rest, by rw [hlonger]; rfl, hys⟩)
          · exact Or.inr (Or.inr ⟨rest, by rw [hlonger]; rfl, hys⟩)

/-! ### Whitespace -/

/-- `char::is_whitespace`: the Unicode property `White_Space`. -/
def isWhitespace (c : Char) : Bool :=
  (9 ≤ c.toNat && c.toNat ≤ 13) || c.toNat == 0x20 || c.toNat == 0x85 || c.toNat == 0xA0 ||
    c.toNat == 0x1680 || (0x2000 ≤ c.toNat && c.toNat ≤ 0x200A) || c.toNat == 0x2028 ||
    c.toNat == 0x2029 || c.toNat == 0x202F || c.toNat == 0x205F || c.toNat == 0x3000

/-- `str::trim`. -/
def trim (s : String) : String :=
  String.ofList ((s.toList.dropWhile isWhitespace).rdropWhile isWhitespace)

/-- `s.trim().is_empty()`. -/
def isBlank (s : String) : Bool := (trim s).isEmpty

/-- `str::trim_end_matches` for one character. -/
def trimEndMatches (c : Char) (s : String) : String :=
  String.ofList (s.toList.rdropWhile (· == c))

/-- `str::trim_matches`. -/
def trimMatches (p : Char → Bool) (s : String) : String :=
  String.ofList ((s.toList.dropWhile p).rdropWhile p)

/-- A text is blank when it has nothing but whitespace. -/
theorem isBlank_iff {s : String} : isBlank s = true ↔ ∀ c ∈ s.toList, isWhitespace c = true := by
  unfold isBlank trim
  rw [String.isEmpty_iff, ← String.toList_inj, String.toList_ofList, String.toList_empty,
    List.rdropWhile_eq_nil_iff]
  constructor
  · intro h c hc
    by_contra hws
    have hne : s.toList.dropWhile isWhitespace ≠ [] := fun hnil =>
      hws (List.dropWhile_eq_nil_iff.mp hnil c hc)
    have hhead := List.head_dropWhile_not isWhitespace hne
    rw [h _ (List.head_mem hne)] at hhead
    exact Bool.noConfusion hhead
  · exact fun h c hc => h c ((List.dropWhile_sublist _).subset hc)

/-- What is left of a text is blank only if the text is. -/
theorem isBlank_trim (s : String) : isBlank (trim s) = isBlank s := by
  rw [Bool.eq_iff_iff]
  constructor
  · intro h
    by_contra hne
    rw [isBlank_iff] at h
    have hnil : (trim s).toList ≠ [] := by
      intro hnil
      exact hne (by rw [isBlank, String.isEmpty_iff, ← String.toList_inj, hnil]; rfl)
    have hlast : ¬ isWhitespace ((trim s).toList.getLast hnil) = true := by
      simp only [trim, String.toList_ofList] at hnil ⊢
      exact List.rdropWhile_last_not isWhitespace _ hnil
    exact hlast (h _ (List.getLast_mem hnil))
  · intro h
    have hempty : trim s = "" := String.isEmpty_iff.mp h
    rw [hempty]
    decide

/-- Trimming twice is trimming once. -/
theorem trim_trim (s : String) : trim (trim s) = trim s := by
  have hhead : ∀ l : List Char,
      ((l.dropWhile isWhitespace).rdropWhile isWhitespace).dropWhile isWhitespace =
        (l.dropWhile isWhitespace).rdropWhile isWhitespace := by
    intro l
    rw [List.dropWhile_eq_self_iff]
    intro hpos
    -- its first character is that of the text without leading whitespace
    have hle := List.rdropWhile_prefix isWhitespace (l.dropWhile isWhitespace)
    rw [hle.getElem hpos]
    have hne : l.dropWhile isWhitespace ≠ [] := by
      intro hnil
      rw [hnil] at hpos
      cases hpos
    rw [List.getElem_zero]
    have := List.head_dropWhile_not isWhitespace hne
    simp [this]
  rw [trim, trim, String.toList_ofList, hhead, List.rdropWhile_idempotent]

/-! ### Trailing characters -/

theorem trimEndMatches_idem (c : Char) (s : String) :
    trimEndMatches c (trimEndMatches c s) = trimEndMatches c s := by
  simp [trimEndMatches, List.rdropWhile_idempotent]

/-- What is dropped are copies of the character. -/
theorem exists_eq_trimEndMatches_append (c : Char) (s : String) :
    ∃ n, s = trimEndMatches c s ++ String.ofList (List.replicate n c) := by
  suffices h : ∀ l : List Char, ∃ n, l = l.rdropWhile (· == c) ++ List.replicate n c by
    obtain ⟨n, hn⟩ := h s.toList
    refine ⟨n, ?_⟩
    rw [← String.toList_inj]
    simpa [trimEndMatches] using hn
  intro l
  induction l using List.reverseRecOn with
  | nil => exact ⟨0, rfl⟩
  | append_singleton l x ih =>
      by_cases hx : x = c
      · obtain ⟨n, hn⟩ := ih
        refine ⟨n + 1, ?_⟩
        rw [List.rdropWhile_concat_pos _ _ _ (by simpa using hx), List.replicate_succ',
          ← List.append_assoc, ← hn, hx]
      · exact ⟨0, by rw [List.rdropWhile_concat_neg _ _ _ (by simpa using hx)]; simp⟩

theorem trimEndMatches_append_replicate {c : Char} {s : String} (n : Nat) :
    trimEndMatches c (s ++ String.ofList (List.replicate n c)) = trimEndMatches c s := by
  induction n with
  | zero => simp
  | succ n ih =>
      rw [← ih]
      simp only [trimEndMatches, String.toList_append, String.toList_ofList, List.replicate_succ',
        ← List.append_assoc]
      rw [List.rdropWhile_concat_pos _ _ _ (by simp)]

/-! ### Words -/

/-- `str::split_whitespace`. -/
def splitWhitespace (s : String) : List String :=
  ((s.toList.splitOnP isWhitespace).filter fun w => !w.isEmpty).map String.ofList

/-- `[String]::join(" ")`. -/
def joinWith (ws : List String) : String :=
  String.ofList ([' '].intercalate (ws.map String.toList))

/-- A word: not empty, and without whitespace. -/
def IsWord (w : String) : Prop := w.toList ≠ [] ∧ ∀ c ∈ w.toList, isWhitespace c = false

theorem splitOnP_no_separator {p : Char → Bool} {cs : List Char} :
    ∀ w ∈ cs.splitOnP p, ∀ c ∈ w, p c = false := by
  induction cs with
  | nil => simp
  | cons a as ih =>
      intro w hw c hc
      rw [List.splitOnP_cons_eq_if_modifyHead] at hw
      by_cases ha : p a = true
      · rw [if_pos ha] at hw
        rcases List.mem_cons.mp hw with rfl | hw
        · simp at hc
        · exact ih w hw c hc
      · rw [if_neg ha] at hw
        -- the first segment grows by `a`; every other one is a segment of the tail
        cases hsplit : as.splitOnP p with
        | nil => exact absurd hsplit (List.splitOnP_ne_nil p as)
        | cons v vs =>
            rw [hsplit, List.modifyHead_cons] at hw
            rcases List.mem_cons.mp hw with rfl | hw
            · rcases List.mem_cons.mp hc with rfl | hc
              · simpa using ha
              · exact ih v (by rw [hsplit]; exact List.mem_cons_self ..) c hc
            · exact ih w (by rw [hsplit]; exact List.mem_cons_of_mem _ hw) c hc

theorem splitOnP_congr {p q : Char → Bool} {cs : List Char} (h : ∀ c ∈ cs, p c = q c) :
    cs.splitOnP p = cs.splitOnP q := by
  induction cs with
  | nil => rfl
  | cons c cs ih =>
      rw [List.splitOnP_cons_eq_if_modifyHead, List.splitOnP_cons_eq_if_modifyHead,
        h c (List.mem_cons_self ..), ih fun c' hc => h c' (List.mem_cons_of_mem _ hc)]

theorem splitOnP_map (f : Char → Char) (p : Char → Bool) (cs : List Char) :
    (cs.map f).splitOnP p = (cs.splitOnP fun c => p (f c)).map (List.map f) := by
  induction cs with
  | nil => rfl
  | cons c cs ih =>
      rw [List.map_cons, List.splitOnP_cons_eq_if_modifyHead, List.splitOnP_cons_eq_if_modifyHead,
        ih]
      by_cases hc : p (f c) = true
      · rw [if_pos hc, if_pos hc]
        rfl
      · rw [if_neg hc, if_neg hc]
        cases hsplit : cs.splitOnP fun c => p (f c) with
        | nil => exact absurd hsplit (List.splitOnP_ne_nil _ cs)
        | cons v vs => rfl

/-- Characters without a separator, at the end, belong to the last piece. -/
theorem splitOnP_append_of_none {p : Char → Bool} {ds : List Char} (h : ∀ c ∈ ds, p c = false)
    {cs last : List Char} {before : List (List Char)} (hsplit : cs.splitOnP p = before ++ [last]) :
    (cs ++ ds).splitOnP p = before ++ [last ++ ds] := by
  induction cs generalizing before last with
  | nil =>
      have hone := List.append_eq_singleton_iff.mp hsplit.symm
      rcases hone with ⟨hbefore, hlast⟩ | ⟨-, hlast⟩
      · subst hbefore
        rw [List.nil_append, List.splitOnP_eq_singleton h, (List.cons.inj hlast).1]
        rfl
      · cases hlast
  | cons c cs ih =>
      rw [List.cons_append, List.splitOnP_cons_eq_if_modifyHead]
      rw [List.splitOnP_cons_eq_if_modifyHead] at hsplit
      by_cases hc : p c = true
      · rw [if_pos hc] at hsplit ⊢
        cases before with
        | nil => exact absurd (List.cons.inj hsplit).2 (List.splitOnP_ne_nil p cs)
        | cons piece before =>
            obtain ⟨hpiece, hrest⟩ := List.cons.inj hsplit
            rw [ih hrest, ← hpiece]
            rfl
      · rw [if_neg hc] at hsplit ⊢
        -- the character goes to the first piece, which is the last one if there is no other
        obtain ⟨v, vs, hcons⟩ := List.exists_cons_of_ne_nil (List.splitOnP_ne_nil p cs)
        rw [hcons, List.modifyHead_cons] at hsplit
        cases before with
        | nil =>
            obtain ⟨hlast, hvs⟩ := List.cons.inj hsplit
            have hwhole : cs.splitOnP p = [] ++ [v] := by
              rw [hcons, hvs]
              rfl
            rw [ih hwhole, ← hlast]
            rfl
        | cons piece before =>
            obtain ⟨hpiece, hvs⟩ := List.cons.inj hsplit
            have hwhole : cs.splitOnP p = (v :: before) ++ [last] := by
              rw [hcons, hvs]
              rfl
            rw [ih hwhole, ← hpiece]
            rfl

/-- Splitting at whitespace yields words. -/
theorem isWord_of_mem_splitWhitespace {s w : String} (h : w ∈ splitWhitespace s) : IsWord w := by
  unfold splitWhitespace at h
  rw [List.mem_map] at h
  obtain ⟨cs, hcs, rfl⟩ := h
  rw [List.mem_filter] at hcs
  refine ⟨?_, ?_⟩
  · rw [String.toList_ofList]
    have hne := hcs.2
    intro hnil
    rw [hnil] at hne
    simp at hne
  · rw [String.toList_ofList]
    exact splitOnP_no_separator cs hcs.1

/-- A text with a word in it is not blank. -/
theorem not_isBlank_of_splitWhitespace {s : String} (h : splitWhitespace s ≠ []) :
    isBlank s = false := by
  rw [Bool.eq_false_iff]
  intro hblank
  have hempty : ∀ cs : List Char, (∀ c ∈ cs, isWhitespace c = true) →
      ∀ w ∈ cs.splitOnP isWhitespace, w = [] := by
    intro cs
    induction cs with
    | nil => simp
    | cons a as ih =>
        intro hall w hw
        rw [List.splitOnP_cons_eq_if_modifyHead, if_pos (hall a (List.mem_cons_self ..))] at hw
        rcases List.mem_cons.mp hw with rfl | hw
        · rfl
        · exact ih (fun c hc => hall c (List.mem_cons_of_mem _ hc)) w hw
  refine h ?_
  rw [splitWhitespace, List.map_eq_nil_iff, List.filter_eq_nil_iff]
  intro w hw
  rw [hempty _ (isBlank_iff.mp hblank) w hw]
  simp

/-- A word is not blank, and trimming leaves it alone. -/
theorem IsWord.not_isBlank {w : String} (h : IsWord w) : isBlank w = false := by
  rw [Bool.eq_false_iff, Ne, isBlank_iff]
  intro hall
  obtain ⟨c, hc⟩ := List.exists_mem_of_ne_nil _ h.1
  have hns := h.2 c hc
  rw [hall c hc] at hns
  exact Bool.noConfusion hns

theorem IsWord.trim_eq {w : String} (h : IsWord w) : trim w = w := by
  have hdrop : w.toList.dropWhile isWhitespace = w.toList := by
    rw [List.dropWhile_eq_self_iff]
    intro hpos
    rw [h.2 _ (List.getElem_mem hpos)]
    exact Bool.false_ne_true
  have hrdrop : w.toList.rdropWhile isWhitespace = w.toList := by
    rw [List.rdropWhile_eq_self_iff]
    intro hne
    rw [h.2 _ (List.getLast_mem hne)]
    exact Bool.false_ne_true
  rw [trim, hdrop, hrdrop, String.ofList_toList]

/-- A word is one word. -/
theorem IsWord.splitWhitespace_eq {w : String} (h : IsWord w) : splitWhitespace w = [w] := by
  have hne : (!w.toList.isEmpty) = true := by
    simpa using h.1
  rw [splitWhitespace, List.splitOnP_eq_singleton h.2, List.filter_cons, if_pos hne,
    List.filter_nil, List.map_singleton, String.ofList_toList]

/-- No word goes across whitespace. -/
theorem splitWhitespace_append_cons {c : Char} (hc : isWhitespace c = true) (cs ds : List Char) :
    splitWhitespace (String.ofList (cs ++ c :: ds)) =
      splitWhitespace (String.ofList cs) ++ splitWhitespace (String.ofList ds) := by
  simp only [splitWhitespace, String.toList_ofList]
  rw [List.splitOnP_append_cons cs ds hc, List.filter_append, List.map_append]

/-- The words of joined texts are the words of each. -/
theorem splitWhitespace_joinWith_flatMap (ws : List String) :
    splitWhitespace (joinWith ws) = ws.flatMap splitWhitespace := by
  unfold joinWith
  induction ws with
  | nil => simp [splitWhitespace]
  | cons w ws ih =>
      cases ws with
      | nil => simp
      | cons v vs =>
          rw [List.map_cons, List.map_cons, List.intercalate_cons_cons, List.append_assoc,
            List.singleton_append, splitWhitespace_append_cons (by decide), String.ofList_toList,
            List.flatMap_cons]
          rw [List.map_cons] at ih
          rw [ih]

/-- Words joined by single spaces are found again by splitting at whitespace. -/
theorem splitWhitespace_joinWith {ws : List String} (h : ∀ w ∈ ws, IsWord w) :
    splitWhitespace (joinWith ws) = ws := by
  rw [splitWhitespace_joinWith_flatMap]
  induction ws with
  | nil => rfl
  | cons w ws ih =>
      rw [List.flatMap_cons, (h w (List.mem_cons_self ..)).splitWhitespace_eq,
        ih fun v hv => h v (List.mem_cons_of_mem _ hv), List.singleton_append]

/-- Whitespace around a text adds no word. -/
theorem splitWhitespace_trim (s : String) : splitWhitespace (trim s) = splitWhitespace s := by
  have hnil : splitWhitespace (String.ofList []) = [] := by simp [splitWhitespace]
  have hbefore : ∀ cs : List Char, splitWhitespace (String.ofList (cs.dropWhile isWhitespace)) =
      splitWhitespace (String.ofList cs) := by
    intro cs
    induction cs with
    | nil => rfl
    | cons c cs ih =>
        by_cases hc : isWhitespace c = true
        · have hsplit := splitWhitespace_append_cons hc [] cs
          rw [hnil, List.nil_append, List.nil_append] at hsplit
          rw [List.dropWhile_cons_of_pos hc, ih, hsplit]
        · rw [List.dropWhile_cons_of_neg hc]
  have hafter : ∀ cs : List Char, splitWhitespace (String.ofList (cs.rdropWhile isWhitespace)) =
      splitWhitespace (String.ofList cs) := by
    intro cs
    induction cs using List.reverseRecOn with
    | nil => rfl
    | append_singleton cs c ih =>
        by_cases hc : isWhitespace c = true
        · rw [List.rdropWhile_concat_pos _ _ _ hc, ih, splitWhitespace_append_cons hc, hnil,
            List.append_nil]
        · rw [List.rdropWhile_concat_neg _ _ _ hc]
  rw [trim, hafter, hbefore, String.ofList_toList]

/-- A text without a separator does not go across one. -/
theorem infix_append_cons {xs ys sub : List Char} {c : Char} (h : c ∉ sub) :
    sub <:+: xs ++ c :: ys ↔ sub <:+: xs ∨ sub <:+: ys := by
  constructor
  · intro ⟨s, t, heq⟩
    -- either the text ends before the separator, or it begins after it
    rcases List.append_eq_append_iff.mp heq with ⟨rest, hxs, -⟩ | ⟨rest, hbefore, hafter⟩
    · exact Or.inl ⟨s, rest, hxs.symm⟩
    · cases rest with
      | nil =>
          rw [List.append_nil] at hbefore
          exact Or.inl ⟨s, [], by rw [List.append_nil, hbefore]⟩
      | cons d rest =>
          obtain ⟨hd, hys⟩ := List.cons.inj hafter
          subst hd
          rcases List.append_eq_append_iff.mp hbefore with ⟨more, -, hmore⟩ | ⟨more, -, hmore⟩
          · refine absurd ?_ h
            rw [hmore]
            exact List.mem_append_right more (List.mem_cons_self ..)
          · cases more with
            | nil =>
                refine absurd ?_ h
                rw [show sub = c :: rest from hmore.symm]
                exact List.mem_cons_self ..
            | cons d more =>
                refine Or.inr ⟨more, t, ?_⟩
                rw [hys, (List.cons.inj hmore).2]
                rfl
  · intro hsub
    rcases hsub with hxs | hys
    · exact hxs.trans (List.prefix_append xs _).isInfix
    · exact hys.trans (List.infix_append_of_infix_right (List.suffix_cons c ys).isInfix)

/-- What joined texts contain, one of them contains, unless a space is in it. -/
theorem infix_joinWith {ws : List String} {sub : List Char} (hne : sub ≠ []) (h : ' ' ∉ sub) :
    sub <:+: (joinWith ws).toList ↔ ∃ w ∈ ws, sub <:+: w.toList := by
  unfold joinWith
  rw [String.toList_ofList]
  induction ws with
  | nil => simpa using hne
  | cons w ws ih =>
      cases ws with
      | nil => simp
      | cons v vs =>
          rw [List.map_cons, List.map_cons, List.intercalate_cons_cons, List.append_assoc,
            List.singleton_append, infix_append_cons h]
          rw [List.map_cons] at ih
          rw [ih]
          simp

/-! ### Pieces, prefixes and case -/

/-- `str::split` at one character. -/
def splitAtChar (c : Char) (s : String) : List String :=
  (s.toList.splitOnP (· == c)).map String.ofList

/-- A text without the separator is one piece. -/
theorem splitAtChar_of_notMem {c : Char} {s : String} (h : c ∉ s.toList) : splitAtChar c s = [s] := by
  have hne : ∀ a ∈ s.toList, (a == c) = false := by
    intro a ha
    rw [beq_eq_false_iff_ne]
    rintro rfl
    exact h ha
  rw [splitAtChar, List.splitOnP_eq_singleton hne, List.map_singleton, String.ofList_toList]

/-- The first separator ends the first piece. -/
theorem splitAtChar_append {c : Char} {s t : String} (h : c ∉ s.toList) :
    splitAtChar c (s ++ (String.singleton c ++ t)) = s :: splitAtChar c t := by
  have hne : ∀ a ∈ s.toList, (a == c) = false := by
    intro a ha
    rw [beq_eq_false_iff_ne]
    rintro rfl
    exact h ha
  unfold splitAtChar
  rw [String.toList_append, String.toList_append, String.toList_singleton, List.singleton_append,
    List.splitOnP_append_cons_of_forall_mem hne c (beq_self_eq_true c), List.map_cons,
    String.ofList_toList]

/-- `str::contains` for a text. -/
def containsStr (s needle : String) : Bool :=
  s.toList.tails.any fun rest => needle.toList.isPrefixOf rest

/-- `str::contains` for one character. -/
def containsChar (s : String) (c : Char) : Bool := s.toList.contains c

/-- `str::starts_with` for one character. -/
def startsWithChar (s : String) (c : Char) : Bool := s.toList.head? == some c

/-- `str::strip_prefix`. -/
def stripPrefix (s pre : String) : Option String :=
  if pre.toList.isPrefixOf s.toList then some (String.ofList (s.toList.drop pre.toList.length))
  else none

/-- `str::to_ascii_lowercase`. -/
def toAsciiLowercase (s : String) : String := String.ofList (s.toList.map Char.toLower)

/-- `str::eq_ignore_ascii_case`. -/
def eqIgnoreAsciiCase (s t : String) : Bool := toAsciiLowercase s == toAsciiLowercase t

/-- Lower-casing moves the letters from 65 to 90 up by 32, and nothing else. -/
theorem toNat_toLower (c : Char) :
    c.toLower.toNat = if 65 ≤ c.toNat ∧ c.toNat ≤ 90 then c.toNat + 32 else c.toNat := by
  have hrange : (c.val ≥ 'A'.val ∧ c.val ≤ 'Z'.val) ↔ 65 ≤ c.toNat ∧ c.toNat ≤ 90 := by
    rw [ge_iff_le, UInt32.le_iff_toNat_le, UInt32.le_iff_toNat_le]
    exact Iff.rfl
  unfold Char.toLower
  split
  · next h =>
      obtain ⟨hlow, hhigh⟩ := hrange.mp h
      rw [if_pos ⟨hlow, hhigh⟩]
      show (c.val + 32).toNat = c.val.toNat + 32
      rw [UInt32.toNat_add]
      exact Nat.mod_eq_of_lt (by change c.val.toNat ≤ 90 at hhigh; show c.val.toNat + 32 < _; omega)
  · next h => rw [if_neg (mt hrange.mpr h)]

theorem isWhitespace_toLower (c : Char) : isWhitespace c.toLower = isWhitespace c := by
  unfold isWhitespace
  rw [toNat_toLower]
  split
  · next h =>
      obtain ⟨hlow, hhigh⟩ := h
      rw [Bool.eq_iff_iff]
      simp only [Bool.or_eq_true, Bool.and_eq_true, decide_eq_true_eq, beq_iff_eq]
      omega
  · rfl

theorem toLower_toLower (c : Char) : c.toLower.toLower = c.toLower := by
  apply Char.toNat_inj.mp
  rw [toNat_toLower c.toLower, toNat_toLower c]
  split
  · exact if_neg (by omega)
  · rfl

theorem toAsciiLowercase_idem (s : String) :
    toAsciiLowercase (toAsciiLowercase s) = toAsciiLowercase s := by
  have hlower : Char.toLower ∘ Char.toLower = Char.toLower := funext toLower_toLower
  simp [toAsciiLowercase, hlower]

theorem trim_toAsciiLowercase (s : String) :
    trim (toAsciiLowercase s) = toAsciiLowercase (trim s) := by
  have hws : isWhitespace ∘ Char.toLower = isWhitespace := funext isWhitespace_toLower
  simp only [trim, toAsciiLowercase, String.toList_ofList, List.rdropWhile, List.dropWhile_map, hws,
    ← List.map_reverse]

/-! ### Octets -/

/-- `str::len`: the number of octets of the UTF-8 form. -/
def len (s : String) : Nat := s.utf8ByteSize

/-- `str::as_bytes`. -/
def asBytes (s : String) : Bytes := s.toByteArray.data.toList

theorem asBytes_append (s t : String) : asBytes (s ++ t) = asBytes s ++ asBytes t := by
  simp [asBytes]

theorem asBytes_injective : Function.Injective asBytes := by
  intro s t h
  have hdata : s.toByteArray.data = t.toByteArray.data := Array.toList_inj.mp h
  have hbytes : s.toByteArray = t.toByteArray := by
    cases hs : s.toByteArray
    cases ht : t.toByteArray
    rw [hs, ht] at hdata
    simpa using hdata
  exact String.toByteArray_inj.mp hbytes

/-- One lower case hexadecimal digit. -/
def hexDigit (n : Nat) : Char :=
  if n < 10 then Char.ofNat (48 + n) else Char.ofNat (87 + n)

/-- Two lower case hexadecimal digits for each octet. -/
def hexLower (bytes : Bytes) : String :=
  String.ofList (bytes.flatMap fun byte => [hexDigit (byte.toNat / 16), hexDigit (byte.toNat % 16)])

theorem hexDigit_injective {m n : Nat} (hm : m < 16) (hn : n < 16)
    (h : hexDigit m = hexDigit n) : m = n := by
  have key : ∀ i : Fin 16, ∀ j : Fin 16, hexDigit i = hexDigit j → i = j := by decide
  exact congrArg Fin.val (key ⟨m, hm⟩ ⟨n, hn⟩ h)

/-- Different octets have different hexadecimal forms. -/
theorem hexLower_injective : Function.Injective hexLower := by
  intro as
  unfold hexLower
  induction as with
  | nil =>
      intro bs h
      cases bs with
      | nil => rfl
      | cons b bs => simp at h
  | cons a as ih =>
      intro bs h
      cases bs with
      | nil => simp at h
      | cons b bs =>
          simp only [String.ofList_inj, List.flatMap_cons, List.cons_append, List.nil_append,
            List.cons.injEq] at h
          obtain ⟨hhi, hlo, htail⟩ := h
          have ha := a.toNat_lt
          have hb := b.toNat_lt
          have hdiv : a.toNat / 16 = b.toNat / 16 :=
            hexDigit_injective (by omega) (by omega) hhi
          have hmod : a.toNat % 16 = b.toNat % 16 :=
            hexDigit_injective (by omega) (by omega) hlo
          have hab : a = b := UInt8.toNat_inj.mp (by omega)
          have hrest : as = bs := ih (String.ofList_inj.mpr htail)
          rw [hab, hrest]

/-! ### Debug rendering -/

/-- The characters `{:?}` writes for one character of a text. Whether a character
beyond ASCII is written as it is or as an escape is decided by the tables of the
Unicode version at hand, `escaped`. -/
def debugChar (escaped : Char → Bool) (c : Char) : List Char :=
  if c = '\x00' then ['\\', '0']
  else if c = '\t' then ['\\', 't']
  else if c = '\r' then ['\\', 'r']
  else if c = '\n' then ['\\', 'n']
  else if c = '\\' then ['\\', '\\']
  else if c = '"' then ['\\', '"']
  else if c.toNat < 0x20 || c.toNat == 0x7F || (0x80 ≤ c.toNat && escaped c) then
    ['\\', 'u', '\x7b'] ++ Nat.toDigits 16 c.toNat ++ ['\x7d']
  else [c]

/-- The `{:?}` rendering of a text. -/
def debug (escaped : Char → Bool) (s : String) : String :=
  String.ofList ('"' :: s.toList.flatMap (debugChar escaped) ++ ['"'])

end Text
