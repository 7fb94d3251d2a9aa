import Mathlib.Data.List.Basic
import Mathlib.Data.List.TakeWhile

/-!
# The parts of a URI

A hierarchical URI as its parts are written: nothing is decoded or normalised. `split` finds
the parts in a text, and `split_render` says that it finds those of a well-formed URI. Any
slashes may stand before the authority, as browsers allow for `http` and `https`; a port is
any digits, or none.
-/

namespace Uri

structure Parts where
  scheme : List Char
  slashes : List Char
  userInfo : Option (List Char)
  host : List Char
  port : Option (List Char)
  path : List Char
  query : Option (List Char)
  fragment : Option (List Char)

/-- A part that its mark starts. -/
def marked (mark : Char) : Option (List Char) → List Char
  | some cs => mark :: cs
  | none => []

namespace Parts

def userText (parts : Parts) : List Char :=
  match parts.userInfo with
  | some cs => cs ++ ['@']
  | none => []

def hostText (parts : Parts) : List Char :=
  parts.host ++ marked ':' parts.port

def authority (parts : Parts) : List Char := parts.userText ++ parts.hostText

def render (parts : Parts) : List Char :=
  parts.scheme ++ ':' :: (parts.slashes ++ (parts.authority ++ parts.path ++
    marked '?' parts.query ++ marked '#' parts.fragment))

end Parts

def isSlash (c : Char) : Bool := c == '/' || c == '\\'

/-- Characters that stand in neither user information nor a host. -/
def endsAuthority (c : Char) : Bool := isSlash c || c == '?' || c == '#'

/-- Each part ends where the next one starts. -/
structure Parts.WellFormed (parts : Parts) : Prop where
  scheme : ':' ∉ parts.scheme
  slashes : ∀ c ∈ parts.slashes, isSlash c = true
  userInfo : ∀ cs ∈ parts.userInfo, ∀ c ∈ cs, endsAuthority c = false
  hostNe : parts.host ≠ []
  host : ∀ c ∈ parts.host, endsAuthority c = false ∧ c ≠ '@'
  /-- A colon is only in an address between brackets. -/
  colons : ':' ∉ parts.host ∨ ∃ address, parts.host = '[' :: address ++ [']']
  port : ∀ cs ∈ parts.port, ∀ c ∈ cs, c.isDigit = true
  pathStart : ∀ c ∈ parts.path.head?, isSlash c = true
  path : '?' ∉ parts.path ∧ '#' ∉ parts.path
  query : ∀ cs ∈ parts.query, '#' ∉ cs

/-! ### Splitting -/

/-- What is before the first mark, and what is after it. -/
def splitFirst (mark : Char) (cs : List Char) : List Char × Option (List Char) :=
  (cs.takeWhile (· != mark), (cs.dropWhile (· != mark)).tail?)

/-- What is before the last mark, and what is after it. -/
def splitLast (mark : Char) (cs : List Char) : Option (List Char) × List Char :=
  let (after, before) := splitFirst mark cs.reverse
  (before.map List.reverse, after.reverse)

/-- A host, and the port after the last colon. -/
def splitPort (cs : List Char) : List Char × Option (List Char) :=
  match splitLast ':' cs with
  | (some host, port) => if port.all Char.isDigit then (host, some port) else (cs, none)
  | (none, _) => (cs, none)

def split (cs : List Char) : Option Parts := do
  let (scheme, rest) := splitFirst ':' cs
  let rest ← rest
  let (hier, fragment) := splitFirst '#' (rest.dropWhile isSlash)
  let (hier, query) := splitFirst '?' hier
  let (userInfo, hostText) := splitLast '@' (hier.takeWhile (!isSlash ·))
  let (host, port) := splitPort hostText
  pure ⟨scheme, rest.takeWhile isSlash, userInfo, host, port, hier.dropWhile (!isSlash ·), query,
    fragment⟩

theorem splitFirst_append {mark : Char} {cs : List Char} (h : mark ∉ cs)
    (rest : Option (List Char)) : splitFirst mark (cs ++ marked mark rest) = (cs, rest) := by
  have hall : ∀ c ∈ cs, (c != mark) = true := by
    intro c hc
    rw [bne_iff_ne]
    intro heq
    exact h (heq ▸ hc)
  rw [splitFirst, List.takeWhile_append_of_pos hall, List.dropWhile_append_of_pos hall]
  cases rest with
  | none => simp [marked]
  | some rest => simp [marked]

theorem splitLast_append {mark : Char} {cs : List Char} (h : mark ∉ cs)
    (before : List Char) : splitLast mark (before ++ mark :: cs) = (some before, cs) := by
  have hfirst := @splitFirst_append mark cs.reverse (by simpa using h)
    (some before.reverse)
  rw [marked] at hfirst
  simp [splitLast, hfirst]

theorem splitLast_of_notMem {mark : Char} {cs : List Char} (h : mark ∉ cs) :
    splitLast mark cs = (none, cs) := by
  have hfirst := @splitFirst_append mark cs.reverse (by simpa using h) none
  rw [marked, List.append_nil] at hfirst
  simp [splitLast, hfirst]

theorem splitFirst_eq_some {mark : Char} {cs before after : List Char}
    (h : splitFirst mark cs = (before, some after)) : cs = before ++ mark :: after := by
  obtain ⟨hbefore, hafter⟩ := Prod.mk.inj h
  cases hdrop : cs.dropWhile (· != mark) with
  | nil =>
      rw [hdrop] at hafter
      cases hafter
  | cons c rest =>
      have hc := List.head_dropWhile_not (· != mark) (l := cs) (by rw [hdrop]; simp)
      simp only [hdrop, List.head_cons, bne_eq_false_iff_eq] at hc
      rw [hdrop] at hafter
      cases hafter
      subst hc
      rw [← hbefore, ← hdrop, List.takeWhile_append_dropWhile]

theorem splitLast_eq_some {mark : Char} {cs before after : List Char}
    (h : splitLast mark cs = (some before, after)) : cs = before ++ mark :: after := by
  unfold splitLast at h
  cases hfirst : splitFirst mark cs.reverse with
  | mk rest front =>
      rw [hfirst] at h
      obtain ⟨hbefore, hafter⟩ := Prod.mk.inj h
      obtain ⟨front', hfront, hreverse⟩ := Option.map_eq_some_iff.mp hbefore
      rw [hfront] at hfirst
      have hcs := congrArg List.reverse (splitFirst_eq_some hfirst)
      rw [List.reverse_reverse, List.reverse_append, List.reverse_cons, List.append_assoc] at hcs
      rw [hcs, hreverse, hafter]
      rfl

/-- The marks of a URI are no digits. -/
theorem of_isDigit {c : Char} (h : c.isDigit = true) :
    endsAuthority c = false ∧ c ≠ ':' ∧ c ≠ '@' := by
  have hmark : ∀ mark : Char, mark.isDigit = false → c ≠ mark := by
    intro mark hmark heq
    rw [← heq, h] at hmark
    cases hmark
  simp only [endsAuthority, isSlash, Bool.or_eq_false_iff, beq_eq_false_iff_ne]
  exact ⟨⟨⟨⟨hmark '/' rfl, hmark '\\' rfl⟩, hmark '?' rfl⟩, hmark '#' rfl⟩, hmark ':' rfl,
    hmark '@' rfl⟩

/-! ### Finding the parts again -/

section Render

variable {parts : Parts}

theorem of_mem_hostText (h : parts.WellFormed) {c : Char} (hc : c ∈ parts.hostText) :
    endsAuthority c = false ∧ c ≠ '@' := by
  rcases List.mem_append.mp hc with hhost | hport
  · exact h.host c hhost
  · cases hp : parts.port with
    | none =>
        rw [hp] at hport
        cases hport
    | some port =>
        rw [hp, marked] at hport
        rcases List.mem_cons.mp hport with hcolon | hdigit
        · rw [hcolon]
          decide
        · have hdigit := of_isDigit (h.port port hp c hdigit)
          exact ⟨hdigit.1, hdigit.2.2⟩

theorem of_mem_userText (h : parts.WellFormed) {c : Char} (hc : c ∈ parts.userText) :
    endsAuthority c = false := by
  unfold Parts.userText at hc
  cases huser : parts.userInfo with
  | none =>
      rw [huser] at hc
      cases hc
  | some cs =>
      rw [huser] at hc
      rcases List.mem_append.mp hc with hmem | hat
      · exact h.userInfo cs huser c hmem
      · rw [List.mem_singleton.mp hat]
        decide

theorem splitPort_hostText (h : parts.WellFormed) :
    splitPort parts.hostText = (parts.host, parts.port) := by
  unfold Parts.hostText splitPort
  cases hport : parts.port with
  | some port =>
      have hdigits := h.port port hport
      have hcolon : ':' ∉ port := fun hmem => (of_isDigit (hdigits ':' hmem)).2.1 rfl
      rw [marked, splitLast_append hcolon]
      exact if_pos (List.all_eq_true.mpr hdigits)
  | none =>
      rw [marked, List.append_nil]
      rcases h.colons with hnone | ⟨address, haddress⟩
      · rw [splitLast_of_notMem hnone]
      · cases hlast : splitLast ':' parts.host with
        | mk before after =>
            cases before with
            | none => rfl
            | some before =>
                -- what follows the last colon ends with the bracket
                have hhost := splitLast_eq_some hlast
                have hbracket : ']' ∈ after := by
                  rw [haddress] at hhost
                  have hends := congrArg List.getLast? hhost
                  rw [List.getLast?_concat, List.getLast?_append_cons] at hends
                  cases after with
                  | nil => cases hends
                  | cons c after =>
                      rw [List.getLast?_cons_cons] at hends
                      exact List.mem_of_getLast? hends.symm
                have hdigits : ¬ after.all Char.isDigit = true := fun hall =>
                  absurd (List.all_eq_true.mp hall ']' hbracket) (by decide)
                exact if_neg hdigits

theorem splitLast_authority (h : parts.WellFormed) :
    splitLast '@' parts.authority = (parts.userInfo, parts.hostText) := by
  have hat : '@' ∉ parts.hostText := fun hmem => (of_mem_hostText h hmem).2 rfl
  unfold Parts.authority Parts.userText
  cases parts.userInfo with
  | none => rw [List.nil_append, splitLast_of_notMem hat]
  | some cs => rw [List.append_assoc, List.singleton_append, splitLast_append hat]

theorem of_mem_authority (h : parts.WellFormed) {c : Char} (hc : c ∈ parts.authority) :
    endsAuthority c = false := by
  rcases List.mem_append.mp hc with huser | hhost
  · exact of_mem_userText h huser
  · exact (of_mem_hostText h hhost).1

theorem not_isSlash_authority (h : parts.WellFormed) :
    ∀ c ∈ parts.authority, (!isSlash c) = true := by
  intro c hc
  have hends := of_mem_authority h hc
  simp only [endsAuthority, Bool.or_eq_false_iff] at hends
  simp [hends.1.1]

/-- The slashes end where the authority starts, which is not empty. -/
theorem slashes_authority (h : parts.WellFormed) (rest : List Char) :
    (parts.slashes ++ (parts.authority ++ rest)).takeWhile isSlash = parts.slashes ∧
      (parts.slashes ++ (parts.authority ++ rest)).dropWhile isSlash = parts.authority ++ rest := by
  obtain ⟨c, cs, hcons⟩ : ∃ c cs, parts.authority = c :: cs := by
    refine List.exists_cons_of_ne_nil fun hnil => h.hostNe ?_
    exact (List.append_eq_nil_iff.mp (List.append_eq_nil_iff.mp hnil).2).1
  have hc : ¬ isSlash c = true := by
    simpa using not_isSlash_authority h c (by rw [hcons]; exact List.mem_cons_self ..)
  rw [List.takeWhile_append_of_pos h.slashes, List.dropWhile_append_of_pos h.slashes, hcons,
    List.cons_append, List.takeWhile_cons_of_neg hc, List.dropWhile_cons_of_neg hc,
    List.append_nil]
  exact ⟨rfl, rfl⟩

/-- The authority ends where the path starts. -/
theorem authority_path (h : parts.WellFormed) :
    (parts.authority ++ parts.path).takeWhile (!isSlash ·) = parts.authority ∧
      (parts.authority ++ parts.path).dropWhile (!isSlash ·) = parts.path := by
  rw [List.takeWhile_append_of_pos (not_isSlash_authority h),
    List.dropWhile_append_of_pos (not_isSlash_authority h)]
  cases hp : parts.path with
  | nil => simp
  | cons c rest =>
      have hc : isSlash c = true := h.pathStart c (by rw [hp]; rfl)
      simp [hc]

theorem question_notMem (h : parts.WellFormed) : '?' ∉ parts.authority ++ parts.path := by
  rw [List.mem_append, not_or]
  exact ⟨fun hmem => absurd (of_mem_authority h hmem) (by decide), h.path.1⟩

theorem hash_notMem (h : parts.WellFormed) :
    '#' ∉ parts.authority ++ parts.path ++ marked '?' parts.query := by
  rw [List.mem_append, List.mem_append, not_or, not_or]
  refine ⟨⟨fun hmem => absurd (of_mem_authority h hmem) (by decide), h.path.2⟩, fun hmem => ?_⟩
  cases hq : parts.query with
  | none =>
      rw [hq] at hmem
      cases hmem
  | some cs =>
      rw [hq, marked] at hmem
      rcases List.mem_cons.mp hmem with heq | hmem
      · exact absurd heq (by decide)
      · exact h.query cs hq hmem

/-- The parts of a well-formed URI are found again. -/
theorem split_render (h : parts.WellFormed) : split parts.render = some parts := by
  have hscheme := splitFirst_append h.scheme (some (parts.slashes ++ (parts.authority ++
    (parts.path ++ marked '?' parts.query ++ marked '#' parts.fragment))))
  have hslashes := slashes_authority h (parts.path ++ marked '?' parts.query ++
    marked '#' parts.fragment)
  have hfragment := splitFirst_append (hash_notMem h) parts.fragment
  have hquery := splitFirst_append (question_notMem h) parts.query
  have hpath := authority_path h
  simp only [← List.append_assoc] at hslashes hfragment hquery
  rw [marked] at hscheme
  unfold split Parts.render
  simp only [← List.append_assoc] at hscheme ⊢
  simp only [hscheme, hslashes, hfragment, hquery, hpath, splitLast_authority h,
    splitPort_hostText h, Option.bind_eq_bind, Option.bind_some]
  rfl

end Render

/-! ### What is found -/

theorem split_eq_none {cs : List Char} (h : ':' ∉ cs) : split cs = none := by
  have hfirst := splitFirst_append h none
  rw [marked, List.append_nil] at hfirst
  simp [split, hfirst]

/-- A path ends where a query or a fragment starts. -/
theorem split_path {cs : List Char} {parts : Parts} (h : split cs = some parts) :
    (∀ c ∈ parts.path.head?, isSlash c = true) ∧ '?' ∉ parts.path ∧ '#' ∉ parts.path := by
  simp only [split, splitFirst, Option.bind_eq_bind, Option.bind_eq_some_iff, Option.pure_def,
    Option.some.injEq] at h
  obtain ⟨rest, -, heq⟩ := h
  rw [← heq]
  have hdropped : ∀ {c : Char} {p : Char → Bool} {cs : List Char}, c ∈ cs.dropWhile p → c ∈ cs :=
    fun hmem => (List.dropWhile_sublist _).subset hmem
  refine ⟨?_, fun hmem => ?_, fun hmem => ?_⟩
  · intro c hc
    have hhead := List.head?_dropWhile_not (!isSlash ·) ((splitFirst '?' (splitFirst '#'
      (rest.dropWhile isSlash)).1).1)
    rw [show ((splitFirst '?' (splitFirst '#' (rest.dropWhile isSlash)).1).1.dropWhile
      (!isSlash ·)).head? = some c from hc] at hhead
    simpa using hhead
  · have hquestion := List.mem_takeWhile_imp (hdropped hmem)
    exact absurd hquestion (by decide)
  · have hhash := List.mem_takeWhile_imp ((List.takeWhile_sublist _).subset (hdropped hmem))
    exact absurd hhash (by decide)

end Uri
