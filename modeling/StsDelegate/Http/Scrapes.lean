import StsDelegate.Http.Counters

/-!
# What a scrape tells

The text of a scrape is read back as the numbers it was written from (`parse_render`), whatever
the labels are. What the numbers mean is said for every run, with any number of requests and
scrapes in flight: each counter was read in some pool of the run while the scrape was served
(`Scraped`). So a scrape lies between what the server had answered when it began and what it has
answered when it ends (`scrape_between`), shows every answer given before (`answers_shown`) and
no token that no signature was counted for (`scrapes_account`), and is never behind an earlier
one (`scrapes_grow`).
-/

namespace StsDelegate

open Text Effectful Prog Exposition

/-! ### The text is read back -/

namespace MetricsReport

def denialSample (entry : String × UInt64) : Sample :=
  ⟨"sts_denials_total", [("error", entry.1)], entry.2.toNat⟩

def signingSample (entry : SigningLabel × UInt64) : Sample :=
  ⟨"sts_token_signing_alg_total",
    [("alg", (ofLex entry.1).1), ("pqc_fallback", displayBool (ofLex entry.1).2)], entry.2.toNat⟩

/-- The samples of a scrape. -/
def samples (report : MetricsReport) : List Sample :=
  [⟨"sts_exchanges_total", [("result", "minted")], report.minted.toNat⟩,
    ⟨"sts_exchanges_total", [("result", "denied")], report.denied.toNat⟩] ++
  report.denials.entries.map denialSample ++ report.signingAlgs.entries.map signingSample ++
  [⟨"sts_replay_cache_size", [], report.replayCacheSize⟩]

/-- The lines of a scrape. -/
def lines (report : MetricsReport) : List Line :=
  [.comment " HELP sts_exchanges_total Total token exchange outcomes (minted = success, denied = any OAuth error)",
    .comment " TYPE sts_exchanges_total counter",
    .sample ⟨"sts_exchanges_total", [("result", "minted")], report.minted.toNat⟩,
    .sample ⟨"sts_exchanges_total", [("result", "denied")], report.denied.toNat⟩,
    .comment " HELP sts_denials_total Token exchange denials labelled by OAuth error code",
    .comment " TYPE sts_denials_total counter"] ++
  report.denials.entries.map (fun entry => .sample (denialSample entry)) ++
  [.comment " HELP sts_token_signing_alg_total Minted token signing algorithms selected by STS policy",
    .comment " TYPE sts_token_signing_alg_total counter"] ++
  report.signingAlgs.entries.map (fun entry => .sample (signingSample entry)) ++
  [.comment " HELP sts_replay_cache_size Unexpired jtis currently held in the active replay cache",
    .comment " TYPE sts_replay_cache_size gauge",
    .sample ⟨"sts_replay_cache_size", [], report.replayCacheSize⟩]

theorem samples_lines (report : MetricsReport) : Exposition.samples report.lines = report.samples := by
  simp only [lines, samples, samples_append, samples_map]
  simp [Exposition.samples]

/-- Replacing one sign after the other escapes them all. -/
theorem toList_escapePrometheusLabel (value : String) :
    (escapePrometheusLabel value).toList = escape value.toList := by
  rw [escapePrometheusLabel, String.toList_ofList, replaceChar, replaceChar, replaceChar, escape,
    List.flatMap_assoc, List.flatMap_assoc]
  refine List.flatMap_congr fun c _ => ?_
  unfold escapeChar
  by_cases hbackslash : c = '\\'
  · subst hbackslash
    decide
  by_cases hquote : c = '"'
  · subst hquote
    decide
  by_cases hnewline : c = '\n'
  · subst hnewline
    decide
  · simp [hbackslash, hquote, hnewline]

theorem named_denialSample (entry : String × UInt64) : (denialSample entry).Named := by
  refine ⟨isName_ofList (by decide), fun label hlabel => ?_⟩
  rw [List.mem_singleton.mp hlabel]
  exact isName_ofList (by decide)

theorem named_signingSample (entry : SigningLabel × UInt64) : (signingSample entry).Named := by
  refine ⟨isName_ofList (by decide), fun label hlabel => ?_⟩
  simp only [signingSample, List.mem_cons, List.not_mem_nil, or_false] at hlabel
  rcases hlabel with rfl | rfl
  · exact isName_ofList (by decide)
  · exact isName_ofList (by decide)

theorem proper_lines (report : MetricsReport) : ∀ line ∈ report.lines, line.Proper := by
  intro line hline
  have hcounter : ∀ value n, (Sample.mk "sts_exchanges_total" [("result", value)] n).Named := by
    intro value n
    refine ⟨isName_ofList (by decide), fun label hlabel => ?_⟩
    rw [List.mem_singleton.mp hlabel]
    exact isName_ofList (by decide)
  have hgauge : ∀ n, (Sample.mk "sts_replay_cache_size" [] n).Named :=
    fun n => ⟨isName_ofList (by decide), by simp⟩
  simp only [lines, List.mem_append, List.mem_map, List.mem_cons, List.not_mem_nil, or_false] at hline
  rcases hline with (((hhead | ⟨entry, -, rfl⟩) | hmiddle) | ⟨entry, -, rfl⟩) | htail
  · rcases hhead with rfl | rfl | rfl | rfl | rfl | rfl
    · exact proper_ofList (by decide)
    · exact proper_ofList (by decide)
    · exact hcounter _ _
    · exact hcounter _ _
    · exact proper_ofList (by decide)
    · exact proper_ofList (by decide)
  · exact named_denialSample entry
  · rcases hmiddle with rfl | rfl
    · exact proper_ofList (by decide)
    · exact proper_ofList (by decide)
  · exact named_signingSample entry
  · rcases htail with rfl | rfl | rfl
    · exact proper_ofList (by decide)
    · exact proper_ofList (by decide)
    · exact hgauge _

theorem toList_display (n : Nat) : (display n).toList = Decimal.displayNat n := String.toList_ofList

theorem toList_denialText (entry : String × UInt64) :
    (denialText entry).toList = endedLine (.sample (denialSample entry)) := by
  have hopen : ("sts_denials_total\x7berror=\"" : String).toList =
      "sts_denials_total".toList ++ '{' :: ("error".toList ++ ['=', '"']) := by simp
  have hclose : ("\"\x7d " : String).toList = ['"', '}', ' '] := rfl
  have hend : ("\n" : String).toList = ['\n'] := rfl
  -- not by `simp`, which would evaluate the literals
  unfold denialText
  simp only [denialSample, endedLine, lineChars, sampleChars, labelsChars, labelChars,
    moreLabels, toList_display, String.toList_append, toList_escapePrometheusLabel,
    hopen, hclose, hend, List.append_assoc, List.cons_append, List.nil_append]

theorem toList_signingText (entry : SigningLabel × UInt64) :
    (signingText entry).toList = endedLine (.sample (signingSample entry)) := by
  have hopen : ("sts_token_signing_alg_total\x7balg=\"" : String).toList =
      "sts_token_signing_alg_total".toList ++ '{' :: ("alg".toList ++ ['=', '"']) := by simp
  have hmiddle : ("\",pqc_fallback=\"" : String).toList =
      '"' :: ',' :: ("pqc_fallback".toList ++ ['=', '"']) := rfl
  have hclose : ("\"\x7d " : String).toList = ['"', '}', ' '] := rfl
  have hend : ("\n" : String).toList = ['\n'] := rfl
  have hbool : ∀ b, escape (displayBool b).toList = (displayBool b).toList := by decide
  unfold signingText
  simp only [signingSample, endedLine, lineChars, sampleChars, labelsChars, labelChars,
    moreLabels, toList_display, String.toList_append, toList_escapePrometheusLabel,
    hopen, hmiddle, hclose, hend, hbool, List.append_assoc, List.cons_append, List.nil_append]

/-- Each piece is a line and its end. -/
theorem map_toList_pieces (report : MetricsReport) :
    report.pieces.map String.toList = report.lines.map endedLine := by
  have hminted : ("sts_exchanges_total\x7bresult=\"minted\"\x7d " ++ display report.minted.toNat ++
      "\n").toList = endedLine (.sample
        ⟨"sts_exchanges_total", [("result", "minted")], report.minted.toNat⟩) := by
    simp [endedLine, lineChars, sampleChars, labelsChars, labelChars, moreLabels, display, escape,
      escapeChar]
  have hdenied : ("sts_exchanges_total\x7bresult=\"denied\"\x7d " ++ display report.denied.toNat ++
      "\n").toList = endedLine (.sample
        ⟨"sts_exchanges_total", [("result", "denied")], report.denied.toNat⟩) := by
    simp [endedLine, lineChars, sampleChars, labelsChars, labelChars, moreLabels, display, escape,
      escapeChar]
  have hsize : ("sts_replay_cache_size " ++ display report.replayCacheSize ++ "\n").toList =
      endedLine (.sample ⟨"sts_replay_cache_size", [], report.replayCacheSize⟩) := by
    simp [endedLine, lineChars, sampleChars, labelsChars, display]
  simp only [pieces, lines, List.map_append, List.map_map]
  refine congrArg₂ (· ++ ·) (congrArg₂ (· ++ ·) (congrArg₂ (· ++ ·) (congrArg₂ (· ++ ·) ?_ ?_) ?_) ?_) ?_
  · simp only [List.map_cons, List.map_nil, hminted, hdenied]
    repeat rw [endedLine_ofList, String.toList_ofList]
    rfl
  · refine List.map_congr_left fun entry _ => ?_
    rw [Function.comp_apply, Function.comp_apply, toList_denialText]
  · simp only [List.map_cons, List.map_nil]
    repeat rw [endedLine_ofList, String.toList_ofList]
    rfl
  · refine List.map_congr_left fun entry _ => ?_
    rw [Function.comp_apply, Function.comp_apply, toList_signingText]
  · simp only [List.map_cons, List.map_nil, hsize]
    repeat rw [endedLine_ofList, String.toList_ofList]
    rfl

/-- The text of a scrape is its lines. -/
theorem toList_render (report : MetricsReport) : report.render.toList = document report.lines := by
  rw [render, String.toList_join, document, List.flatMap_def, List.flatMap_def, map_toList_pieces]

/-- **The round trip.** A scrape is read back. -/
theorem parse_render (report : MetricsReport) :
    Exposition.parse report.render.toList = some report.samples := by
  rw [toList_render, parse_document (proper_lines report), samples_lines]

end MetricsReport

variable [Crates] {state : HttpState} {moves : List (Move MeteredRequest Tick)}
  {w v : MeteredPool} {t : List (Event (sts.sum counters))}

/-! ### What a scrape says -/

/-- A scrape between the pools `v` and `w` of a run, and the pools in which it has read each
counter. -/
structure ReadAt (state : HttpState) (v v₀ v₁ v₂ v₃ v₄ w : MeteredPool) (report : MetricsReport) :
    Prop where
  begun : v.Leads state v₀
  replayCacheSize : report.replayCacheSize = v₀.state.1.replay.cacheSize
  afterSize : v₀.Leads state v₁
  minted : report.minted = v₁.state.2.exchangesMinted
  afterMinted : v₁.Leads state v₂
  denied : report.denied = v₂.state.2.exchangesDenied
  afterDenied : v₂.Leads state v₃
  denials : report.denials = v₃.state.2.denials
  afterDenials : v₃.Leads state v₄
  signingAlgs : report.signingAlgs = v₄.state.2.signingAlgs
  ended : v₄.Leads state w

/-- The report of a scrape between two pools of a run. -/
def Scraped (state : HttpState) (v w : MeteredPool) (report : MetricsReport) : Prop :=
  ∃ v₀ v₁ v₂ v₃ v₄, ReadAt state v v₀ v₁ v₂ v₃ v₄ w report

/-- A scrape reads the counters one by one, and answers with their text. -/
theorem returns_scrape {headers : HeaderMap} {text : String}
    (h : Returns (meteredHandle state .scrape) t (.scraped headers text)) :
    ∃ report : MetricsReport, headers = metricsHeaders ∧ text = report.render ∧
      t = [⟨.inr .cacheSize, report.replayCacheSize⟩, ⟨.inr .loadMinted, report.minted⟩,
        ⟨.inr .loadDenied, report.denied⟩, ⟨.inr .cloneDenials, report.denials⟩,
        ⟨.inr .cloneSigningAlgs, report.signingAlgs⟩] := by
  obtain ⟨out, t₁, t₂, rfl, hmetrics, hout⟩ := returns_bind.mp h
  obtain ⟨rfl, heq⟩ := returns_done.mp hout
  injection heq with hheaders htext
  obtain ⟨replayCacheSize, u₁, rfl, hsized⟩ := returns_perform_then.mp hmetrics
  obtain ⟨minted, u₂, rfl, hminted⟩ := returns_perform_then.mp hsized
  obtain ⟨denied, u₃, rfl, hdenied⟩ := returns_perform_then.mp hminted
  obtain ⟨denials, u₄, rfl, hdenials⟩ := returns_perform_then.mp hdenied
  obtain ⟨signingAlgs, u₅, rfl, hsigning⟩ := returns_perform_then.mp hdenials
  obtain ⟨rfl, rfl⟩ := returns_done.mp hsigning
  dsimp only at hheaders htext
  exact ⟨⟨replayCacheSize, minted, denied, denials, signingAlgs⟩, hheaders.symm, htext.symm, rfl⟩

/-- **What a scrape is.** It was read from the counters while it was served, and its text is
that of the report. -/
theorem scraped_of_run {i : Nat} {headers : HeaderMap} {text : String}
    (hrun : MeteredPool.run state moves = some v) (hleads : v.Leads state w)
    (hnew : v.threads.length ≤ i)
    (hi : w.threads[i]? = some (.scrape, .done (.scraped headers text))) :
    ∃ report : MetricsReport, headers = metricsHeaders ∧ text = report.render ∧
      Scraped state v w report := by
  have hthreaded := Pool.threaded_exec hrun
  have hnone : Pool.traceOf i v.log = [] := by
    rw [List.eq_nil_iff_forall_not_mem]
    intro ev hev
    exact Nat.not_lt.mpr hnew (hthreaded.started i ev (Pool.mem_traceOf.mp hev))
  obtain ⟨report, hheaders, htext, htrace⟩ :=
    returns_scrape ((hleads.threaded hthreaded).steps i _ _ hi)
  obtain ⟨v₀, u₀, _, hv₀, hu₀, hrest, hsize, ht⟩ := hleads.next hnone htrace
  obtain ⟨v₁, u₁, _, hv₁, hu₁, hrest, hminted, ht⟩ := hrest.next ht htrace
  obtain ⟨v₂, u₂, _, hv₂, hu₂, hrest, hdenied, ht⟩ := hrest.next ht htrace
  obtain ⟨v₃, u₃, _, hv₃, hu₃, hrest, hdenials, ht⟩ := hrest.next ht htrace
  obtain ⟨v₄, u₄, _, hv₄, hu₄, hrest, hsigning, ht⟩ := hrest.next ht htrace
  exact ⟨report, hheaders, htext, v₀, v₁, v₂, v₃, v₄,
    { begun := hv₀, replayCacheSize := hsize, afterSize := hu₀.trans hv₁, minted := hminted
      afterMinted := hu₁.trans hv₂, denied := hdenied, afterDenied := hu₂.trans hv₃
      denials := hdenials, afterDenials := hu₃.trans hv₄, signingAlgs := hsigning
      ended := hu₄.trans hrest }⟩

/-- A server that has just started shows zeros. -/
example (tick : Tick) :
    (MeteredPool.run state (.start .scrape :: List.replicate 5 (.step 0 tick))).bind
        (fun w => w.threads[0]?) =
      some (.scrape, .done (.scraped metricsHeaders
        (MetricsReport.render ⟨0, 0, 0, .empty, .empty⟩))) := rfl

variable {report report' : MetricsReport}

/-- The counters say how much was counted: none has gone all the way round. -/
structure CountsExactly (w : MeteredPool) : Prop where
  minted : w.state.2.exchangesMinted.toNat = w.accesses.countP isMinted
  denied : w.state.2.exchangesDenied.toNat = w.accesses.countP isDenied
  signed : w.state.2.signingAlgs.total = w.accesses.countP isSigned

theorem exact_of_run (hrun : MeteredPool.run state moves = some w)
    (hlength : w.log.length < 2 ^ 64) : CountsExactly w := by
  have haccesses := Nat.lt_of_le_of_lt (accesses_length_le w) hlength
  have hcount (mark : Event counters → Bool) :
      (UInt64.ofNat (w.accesses.countP mark)).toNat = w.accesses.countP mark := by
    rw [UInt64.toNat_ofNat']
    exact Nat.mod_eq_of_lt (Nat.lt_of_le_of_lt List.countP_le_length haccesses)
  have hlabels : (w.accesses.filterMap signedLabel).length < 2 ^ 64 :=
    Nat.lt_of_le_of_lt (List.length_filterMap_le _ _) haccesses
  refine ⟨?_, ?_, ?_⟩ <;> rw [counted_run hrun]
  · exact hcount isMinted
  · exact hcount isDenied
  · exact (Tally.total_ofList hlabels).trans List.length_filterMap_eq_countP

/-- No counter of the second pool is behind the first. -/
structure CountersLater (w w' : MeteredPool) : Prop where
  minted : w.state.2.exchangesMinted ≤ w'.state.2.exchangesMinted
  denied : w.state.2.exchangesDenied ≤ w'.state.2.exchangesDenied
  denials : ∀ error, w.state.2.denials.count error ≤ w'.state.2.denials.count error
  signingAlgs : ∀ label, w.state.2.signingAlgs.count label ≤ w'.state.2.signingAlgs.count label

theorem later_of_leads (hrun : MeteredPool.run state moves = some v) (h : v.Leads state w)
    (hlength : w.log.length < 2 ^ 64) : CountersLater v w := by
  obtain ⟨moves', hrun'⟩ := h.run hrun
  have hexact := exact_of_run hrun (Nat.lt_of_le_of_lt h.log_isPrefix.length_le hlength)
  have hexact' := exact_of_run hrun' hlength
  have hlabels {K : Type} [LinearOrder K] (f : Event counters → Option K) (k : K) :
      (Tally.ofList (v.accesses.filterMap f)).count k ≤
        (Tally.ofList (w.accesses.filterMap f)).count k := by
    refine Tally.count_ofList_le (h.accesses_isPrefix.filterMap f) ?_ k
    exact Nat.lt_of_le_of_lt (List.length_filterMap_le _ _)
      (Nat.lt_of_le_of_lt (accesses_length_le w) hlength)
  refine ⟨?_, ?_, ?_, ?_⟩
  · rw [UInt64.le_iff_toNat_le, hexact.minted, hexact'.minted]
    exact h.countP_le
  · rw [UInt64.le_iff_toNat_le, hexact.denied, hexact'.denied]
    exact h.countP_le
  · rw [counted_run hrun, counted_run hrun']
    exact hlabels deniedError
  · rw [counted_run hrun, counted_run hrun']
    exact hlabels signedLabel

/-- The pools in which a scrape has read lie between its beginning and its end. -/
theorem ReadAt.between {v₀ v₁ v₂ v₃ v₄ : MeteredPool}
    (h : ReadAt state v v₀ v₁ v₂ v₃ v₄ w report) :
    (v.Leads state v₁ ∧ v₁.Leads state w) ∧ (v.Leads state v₂ ∧ v₂.Leads state w) ∧
      (v.Leads state v₃ ∧ v₃.Leads state w) ∧ v.Leads state v₄ ∧ v₄.Leads state w := by
  have h₁ : v.Leads state v₁ := h.begun.trans h.afterSize
  have h₂ : v.Leads state v₂ := h₁.trans h.afterMinted
  have h₃ : v.Leads state v₃ := h₂.trans h.afterDenied
  have hend₃ : v₃.Leads state w := h.afterDenials.trans h.ended
  have hend₂ : v₂.Leads state w := h.afterDenied.trans hend₃
  exact ⟨⟨h₁, h.afterMinted.trans hend₂⟩, ⟨h₂, hend₂⟩, ⟨h₃, hend₃⟩, h₃.trans h.afterDenials, h.ended⟩

theorem exact_of_between {u : MeteredPool} (h : v.Leads state u ∧ u.Leads state w)
    (hrun : MeteredPool.run state moves = some v) (hlength : w.log.length < 2 ^ 64) :
    CountsExactly u := by
  obtain ⟨moves', hmoves'⟩ := h.1.run hrun
  exact exact_of_run hmoves' (Nat.lt_of_le_of_lt h.2.log_isPrefix.length_le hlength)

/-- **A scrape lies between two moments.** It shows every token that had been answered when it
began, and none that is not answered when it ends; it shows every refusal that had been answered
when it began, and none of a request that is answered with a token. -/
theorem scrape_between (hrun : MeteredPool.run state moves = some v)
    (h : Scraped state v w report) (hlength : w.log.length < 2 ^ 64) :
    (v.threads.countP answeredToken ≤ report.minted.toNat ∧
      report.minted.toNat ≤ w.threads.countP answeredToken) ∧
    v.threads.countP refusedToken ≤ report.denied.toNat ∧
      report.denied.toNat ≤ w.threads.countP unansweredToken := by
  obtain ⟨v₀, v₁, v₂, v₃, v₄, hread⟩ := h
  obtain ⟨h₁, h₂, -, -⟩ := hread.between
  have hend : v.Leads state w := h₁.1.trans h₁.2
  obtain ⟨moves', hrun'⟩ := hend.run hrun
  rw [hread.minted, hread.denied, (exact_of_between h₁ hrun hlength).minted,
    (exact_of_between h₂ hrun hlength).denied, ← minted_eq_tokens hrun, ← minted_eq_tokens hrun']
  refine ⟨⟨h₁.1.countP_le, h₁.2.countP_le⟩, ?_, ?_⟩
  · exact Nat.le_trans (denied_bounds hrun).1 h₂.1.countP_le
  · exact Nat.le_trans h₂.2.countP_le (denied_bounds hrun').2

/-- **The counters of a scrape agree.** No token is shown whose signature is not. -/
theorem scrapes_account (hrun : MeteredPool.run state moves = some v)
    (h : Scraped state v w report) (hlength : w.log.length < 2 ^ 64) :
    report.minted.toNat ≤ report.signingAlgs.total := by
  obtain ⟨v₀, v₁, v₂, v₃, v₄, hread⟩ := h
  obtain ⟨h₁, -, -, h₄⟩ := hread.between
  obtain ⟨moves₁, hmoves₁⟩ := h₁.1.run hrun
  have hlater : v₁.Leads state v₄ :=
    hread.afterMinted.trans (hread.afterDenied.trans hread.afterDenials)
  calc report.minted.toNat = v₁.accesses.countP isMinted := by
        rw [hread.minted, (exact_of_between h₁ hrun hlength).minted]
    _ ≤ v₁.accesses.countP isSigned := minted_le_signed hmoves₁
    _ ≤ v₄.accesses.countP isSigned := hlater.countP_le
    _ = report.signingAlgs.total := by
        rw [hread.signingAlgs, (exact_of_between h₄ hrun hlength).signed]

/-- **Scrapes grow.** A scrape that begins when another one has ended shows no counter smaller. -/
theorem scrapes_grow {v' : MeteredPool} (hrun : MeteredPool.run state moves = some v)
    (h : Scraped state v v' report) (h' : Scraped state v' w report')
    (hlength : w.log.length < 2 ^ 64) :
    report.minted ≤ report'.minted ∧ report.denied ≤ report'.denied ∧
      (∀ error, report.denials.count error ≤ report'.denials.count error) ∧
      ∀ label, report.signingAlgs.count label ≤ report'.signingAlgs.count label := by
  obtain ⟨v₀, v₁, v₂, v₃, v₄, hread⟩ := h
  obtain ⟨u₀, u₁, u₂, u₃, u₄, hread'⟩ := h'
  obtain ⟨h₁, h₂, h₃, h₄⟩ := hread.between
  obtain ⟨h₁', h₂', h₃', h₄'⟩ := hread'.between
  have hlater {x y : MeteredPool} (hx : v.Leads state x ∧ x.Leads state v')
      (hy : v'.Leads state y ∧ y.Leads state w) : CountersLater x y := by
    obtain ⟨movesx, hrunx⟩ := hx.1.run hrun
    exact later_of_leads hrunx (hx.2.trans hy.1)
      (Nat.lt_of_le_of_lt hy.2.log_isPrefix.length_le hlength)
  rw [hread.minted, hread.denied, hread.denials, hread.signingAlgs, hread'.minted, hread'.denied,
    hread'.denials, hread'.signingAlgs]
  exact ⟨(hlater h₁ h₁').minted, (hlater h₂ h₂').denied, (hlater h₃ h₃').denials,
    (hlater h₄ h₄').signingAlgs⟩

/-- **What was answered is shown.** A scrape has a line for the algorithm of every token that had
been answered when it began, and for the error of every token request that had been refused. -/
theorem answers_shown (hrun : MeteredPool.run state moves = some v) (h : Scraped state v w report)
    {i : Nat} {q : MeteredRequest} (hq : isTokenRequest q = true) :
    (∀ headers response, v.threads[i]? = some (q, .done (.served (.token headers response))) →
      toLex (response.signingAlgSelected, response.pqcFallback) ∈ report.signingAlgs.labels) ∧
    ∀ err error, v.threads[i]? = some (q, .fail err) → err.error = some error →
      error ∈ report.denials.labels := by
  obtain ⟨v₀, v₁, v₂, v₃, v₄, hread⟩ := h
  obtain ⟨-, -, h₃, h₄⟩ := hread.between
  have hcounted (p : Metered MeteredReply) (hi : v.threads[i]? = some (q, p)) :
      TokenCounted (besides (Pool.traceOf i v.log)) p := by
    rcases accesses_cases ((Pool.threaded_exec hrun).steps i q p hi) with ⟨-, hp⟩ | ⟨hother, -⟩
    · exact hp
    · rw [hq] at hother
      cases hother
  refine ⟨fun headers response hi => ?_, fun err error hi herror => ?_⟩
  · obtain ⟨moves', hrun'⟩ := h₄.1.run hrun
    have hmem := h₄.1.accesses_isPrefix.mem (mem_accesses (signing_of_answered (hcounted _ hi)))
    rw [hread.signingAlgs, counted_run hrun', MetricsState.counted, Tally.mem_labels_ofList]
    exact List.mem_filterMap.mpr ⟨_, hmem, rfl⟩
  · obtain ⟨moves', hrun'⟩ := h₃.1.run hrun
    have hmem := h₃.1.accesses_isPrefix.mem (mem_accesses (denial_of_refused (hcounted _ hi) herror))
    rw [hread.denials, counted_run hrun', MetricsState.counted, Tally.mem_labels_ofList]
    exact List.mem_filterMap.mpr ⟨_, hmem, rfl⟩

end StsDelegate
