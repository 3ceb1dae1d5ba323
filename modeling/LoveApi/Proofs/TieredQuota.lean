import LoveApi.TextQuota
import LoveApi.Program.Truncation

/-!
# Prices by an expression

The check before an expression is saved evaluates it on eight inputs and says nothing about any later run: an
expression that looks at the clock passes it and credits afterwards.
-/

namespace LoveApi.Proofs

open Go BillingExpr List Option

/-! ### The check before an expression is saved -/

section

variable {host : Host} {smokeNow : Nat → Time}

lemma forM_eq_ok {α : Type} {f : α → Except String Unit} {l : List α} :
    l.forM f = .ok () ↔ ∀ a ∈ l, f a = .ok () := by
  induction l with
  | nil => simp [pure, Except.pure]
  | cons a l ih =>
    show (f a >>= fun _ => l.forM f) = .ok () ↔ _
    rw [forall_mem_cons, ← ih]
    rcases f a with e | u
    · simp [bind, Except.bind]
    · exact (and_iff_right rfl).symm

lemma smokeTestExpr_ok_iff {exprStr : String} : smokeTestExpr host smokeNow exprStr = .ok () ↔
    ∀ input ∈ smokeInputs smokeNow, ∃ cost trace,
      runExprWithRequest host input.1 exprStr input.2.1 input.2.2 = .ok (cost, trace) ∧ 0 ≤ cost := by
  unfold smokeTestExpr
  rw [forM_eq_ok]
  refine forall_congr' fun input => imp_congr_right fun _ => ?_
  unfold smokeRun
  rcases runExprWithRequest host input.1 exprStr input.2.1 input.2.2 with e | ⟨cost, trace⟩
  · simp [throw, throwThe, MonadExceptOf.throw]
  · by_cases hcost : cost < 0
    · simp [hcost, throw, throwThe, MonadExceptOf.throw]
    · simp [hcost, not_lt.mp hcost, pure, Except.pure]

lemma exists_time_of_mem_smokeInputs {input : Time × TokenParams × RequestInput} (h : input ∈ smokeInputs smokeNow) :
    ∃ i, input.1 = smokeNow i := by
  obtain ⟨entry, -, rfl⟩ := mem_map.mp h
  exact ⟨entry.2, rfl⟩

end

/-! ### An expression that looks at the clock -/

section

variable {host : Host} {start : Time} {units : Nat}

/-- An expression that costs nothing before a time, and less than nothing from then on. -/
def creditFrom (start : Time) (units : Nat) : String :=
  "now().Unix() >= " ++ toString start ++ " ? -" ++ toString units ++ ".0 : 0.0"

/-- What the documentation of the language says of this text: `now()` is the time of the run, and the condition selects
one of the two numbers. -/
structure EvaluatesCredit (host : Host) (start : Time) (units : Nat) : Prop where
  compiles : host.compileError (creditFrom start units) = none
  value : ∀ now env, host.run (creditFrom start units) now env = .ok (.num (if start ≤ now then -units else 0), [])

lemma trimPrefix_append {pre s : String} : trimPrefix (pre ++ s) pre = s := by
  have hprefix : hasPrefix (pre ++ s) pre = true := by simp [hasPrefix]
  rw [trimPrefix, if_pos hprefix, String.toList_append, ← String.length_toList, drop_left, String.ofList_toList]

lemma runExprWithRequest_creditFrom (h : EvaluatesCredit host start units) {now : Time} {params : TokenParams}
    {request : RequestInput} : runExprWithRequest host now ("v1:" ++ creditFrom start units) params request =
      .ok (if start ≤ now then -units else 0, {}) := by
  simp only [runExprWithRequest, parseExprVersion, trimPrefix_append, h.compiles, runProgram, h.value, getLast?_nil,
    getD_none]

end

/-! ### Negative prices -/

section

variable {host : Host} {smokeNow : Nat → Time} {now : Time} {params : TokenParams} {request : RequestInput}
  {groupRatio quotaPerUnit : ℚ}
variable {preConsumed quota : Int} {info : PricingInfo} {result : TieredResult} {snap : BillingSnapshot}

lemma tryTieredSettle_eq_some (h : tryTieredSettle host now preConsumed info params = some (quota, some result)) :
    ∃ snap, info.tieredBillingSnapshot = some snap ∧ quota = result.actualQuotaAfterGroup ∧
      computeTieredQuotaWithRequest host now snap params (info.billingRequestInput.getD {}) = .ok result := by
  unfold tryTieredSettle at h
  rcases hsnap : info.tieredBillingSnapshot with _ | snap
  · simp [hsnap] at h
  · simp only [hsnap] at h
    split at h
    · cases h
    · split at h
      · simp at h
      · next hresult =>
        obtain ⟨rfl, rfl⟩ : _ ∧ _ := by simpa using h
        exact ⟨snap, rfl, rfl, hresult⟩

lemma computeTieredQuota_eq_ok (h : computeTieredQuotaWithRequest host now snap params request = .ok result) :
    ∃ cost trace, runExprWithRequest host now snap.exprString params request = .ok (cost, trace) ∧
      result.actualQuotaBeforeGroup = quotaConversion cost snap ∧
      result.actualQuotaAfterGroup = roundHalfAway (quotaConversion cost snap * snap.groupRatio) := by
  unfold computeTieredQuotaWithRequest at h
  rcases hrun : runExprWithRequest host now snap.exprString params request with e | ⟨cost, trace⟩
  · rw [hrun] at h
    cases h
  · rw [hrun] at h
    cases h
    exact ⟨cost, trace, rfl, rfl, rfl⟩

/-- Whatever expression was accepted, the quota of an input is not negative: neither by itself, nor with the
price of tools that is added before the settlement. -/
def NeverCredits (host : Host) (smokeNow : Nat → Time) (now : Time) (params : TokenParams) (request : RequestInput)
    (groupRatio quotaPerUnit : ℚ) : Prop :=
  ∀ (snap : BillingSnapshot) (info : PricingInfo) (summary : TextSummary) (preConsumed quota : Int)
    (result : TieredResult),
    smokeTestExpr host smokeNow snap.exprString = .ok () → snap.groupRatio = groupRatio →
    snap.quotaPerUnit = quotaPerUnit → info.tieredBillingSnapshot = some snap →
    info.billingRequestInput = some request → 0 ≤ summary.toolCallSurchargeQuota →
    tryTieredSettle host now preConsumed info params = some (quota, some result) →
    0 ≤ quota ∧ 0 ≤ composeTieredTextQuota info summary quota (some result)

/-- An amount that is at least one unit of quota, by the ratios. -/
def creditUnits (groupRatio quotaPerUnit : ℚ) : Nat := ⌈1000000 / (quotaPerUnit * groupRatio)⌉₊

lemma quota_eq_zero_of_free {summary : TextSummary} (hsnap : info.tieredBillingSnapshot = some snap)
    (hfree : snap.groupRatio = 0) (hsurcharge : 0 ≤ summary.toolCallSurchargeQuota)
    (hsettle : tryTieredSettle host now preConsumed info params = some (quota, some result)) :
    0 ≤ quota ∧ 0 ≤ composeTieredTextQuota info summary quota (some result) := by
  obtain ⟨snap', hsnap', rfl, hresult⟩ := tryTieredSettle_eq_some hsettle
  obtain rfl := some.inj (hsnap.symm.trans hsnap')
  obtain ⟨cost, trace, -, -, hafter⟩ := computeTieredQuota_eq_ok hresult
  have hquota : 0 ≤ result.actualQuotaAfterGroup := by
    rw [hafter, hfree, mul_zero]
    exact roundHalfAway_nonneg le_rfl
  refine ⟨hquota, ?_⟩
  unfold composeTieredTextQuota
  split
  · exact hquota
  · simp only [hsnap, hfree, mul_zero, zero_add]
    exact roundHalfAway_nonneg hsurcharge

lemma quotaRound_credit_neg {snap : BillingSnapshot} (hratio : 0 < snap.groupRatio) (hunit : 0 < snap.quotaPerUnit) :
    quotaRound (quotaConversion (-(creditUnits snap.groupRatio snap.quotaPerUnit : ℚ)) snap * snap.groupRatio) < 0 := by
  have hpos : 0 < snap.quotaPerUnit * snap.groupRatio := mul_pos hunit hratio
  have hunits : 1000000 ≤ (creditUnits snap.groupRatio snap.quotaPerUnit : ℚ) * (snap.quotaPerUnit * snap.groupRatio) :=
    (div_le_iff₀ hpos).mp (Nat.le_ceil _)
  have hcost : quotaConversion (-(creditUnits snap.groupRatio snap.quotaPerUnit : ℚ)) snap * snap.groupRatio ≤
      ((-1 : Int) : ℚ) := by
    unfold quotaConversion
    push_cast
    linarith
  have hround := roundHalfAway_mono hcost
  rw [roundHalfAway_intCast] at hround
  exact lt_of_le_of_lt hround (by decide)

/-- Once the check is over, no accepted expression credits the user for an input exactly if the group is free. -/
theorem tiered_never_credits_iff (hratio : 0 ≤ groupRatio) (hunit : 0 < quotaPerUnit)
    (hlate : ∀ i, smokeNow i < now) (hhost : EvaluatesCredit host now (creditUnits groupRatio quotaPerUnit)) :
    NeverCredits host smokeNow now params request groupRatio quotaPerUnit ↔ groupRatio = 0 := by
  constructor
  · intro h
    by_contra hne
    let snap : BillingSnapshot :=
      { exprString := "v1:" ++ creditFrom now (creditUnits groupRatio quotaPerUnit), groupRatio := groupRatio,
        quotaPerUnit := quotaPerUnit }
    let info : PricingInfo :=
      { originModelName := "", tieredBillingSnapshot := some snap, billingRequestInput := some request }
    have hsmoke : smokeTestExpr host smokeNow snap.exprString = .ok () := by
      refine smokeTestExpr_ok_iff.mpr fun input hinput => ⟨0, {}, ?_, le_refl _⟩
      obtain ⟨i, hi⟩ := exists_time_of_mem_smokeInputs hinput
      rw [hi, runExprWithRequest_creditFrom hhost, if_neg (hlate i).not_ge]
    have hrun : computeTieredQuotaWithRequest host now snap params request = .ok
        { actualQuotaBeforeGroup := quotaConversion (-(creditUnits groupRatio quotaPerUnit : ℚ)) snap
          actualQuotaAfterGroup :=
            quotaRound (quotaConversion (-(creditUnits groupRatio quotaPerUnit : ℚ)) snap * snap.groupRatio)
          matchedTier := ""
          crossedTier := false } := by
      rw [computeTieredQuotaWithRequest, runExprWithRequest_creditFrom hhost, if_pos le_rfl]
      rfl
    have hcredit := (h snap info { quota := 0, totalTokens := 0 } 0 _ _ hsmoke rfl rfl rfl rfl le_rfl
      (by simp only [tryTieredSettle, info, getD_some, hrun]; rfl)).1
    exact absurd hcredit (not_le.mpr (@quotaRound_credit_neg snap (hratio.lt_of_ne' hne) hunit))
  · rintro rfl snap info summary preConsumed quota result - hsratio - hsnap - hsurcharge hsettle
    exact quota_eq_zero_of_free hsnap hsratio hsurcharge hsettle

/-- Libraries that know a few expressions; the others cost nothing. No path of a body has a value, and the clock stands
still. -/
def plainHost : Host where
  compileError _ := none
  run text now env :=
    if text = "p - cr" then .ok (.num (env.params.p - env.params.cr), [])
    else if text = creditFrom 5 2 then .ok (.num (if 5 ≤ now then -2 else 0), [])
    else .ok (.num 0, [])
  hasIdentifier text x := text = "p + cr + cc + cc1h + img + ai" && x ∈ [Var.p, .cr, .cc, .cc1h, .img, .ai]
  gjson _ _ := .nil
  localTime _ _ := ⟨0, 0, 0, 1, 1⟩
  formatFloat _ q := toString q

lemma runExprWithRequest_plain {now : Time} {params : TokenParams} {request : RequestInput} :
    runExprWithRequest plainHost now "0.0" params request = .ok (0, {}) := by
  have hbody : parseExprVersion "0.0" = (1, "0.0") := by decide
  have hknown : "0.0" ≠ "p - cr" ∧ "0.0" ≠ creditFrom 5 2 := by decide +kernel
  simp only [runExprWithRequest, hbody, runProgram, plainHost, if_neg hknown.1, if_neg hknown.2, getLast?_nil,
    getD_none]

theorem tiered_never_credits_fails : ¬NeverCredits plainHost (fun _ => 0) 5 { p := 1000 } {} 1 500000 := by
  have hunits : creditUnits 1 500000 = 2 := by norm_num [creditUnits]
  have hhost : EvaluatesCredit plainHost 5 (creditUnits 1 500000) := by
    rw [hunits]
    exact ⟨rfl, fun now env => rfl⟩
  rw [tiered_never_credits_iff (by norm_num) (by norm_num) (fun _ => by decide) hhost]
  norm_num

/-- An expression that passes the smoke test gives a negative quota for cached tokens. -/
theorem tiered_credits_cached :
    let info : PricingInfo := { originModelName := "m", tieredBillingSnapshot := some { exprString := "p - cr" } }
    smokeTestExpr plainHost (fun _ => 0) "p - cr" = .ok () ∧
      tryTieredSettle plainHost 0 0 info { p := 100, cr := 1000, len := 1100 } =
        some (-450, some ⟨-450, -450, "", false⟩) := by
  decide +kernel

end

/-! ### Every input token once -/

section

def IsClaude (answer : Answer) (usage : Usage) : Prop :=
  usageSemanticFromUsage answer.finalRequestRelayFormat (some usage) = "anthropic"

instance (answer : Answer) (usage : Usage) : Decidable (IsClaude answer usage) :=
  inferInstanceAs (Decidable (_ = _))

def IsOpenRouterClaude (answer : Answer) (usage : Usage) : Prop :=
  answer.channelType = some channelTypeOpenRouter ∧ IsClaude answer usage

instance (answer : Answer) (usage : Usage) : Decidable (IsOpenRouterClaude answer usage) :=
  inferInstanceAs (Decidable (_ ∧ _))

/-- All tokens of the input. -/
def inputTokens (answer : Answer) (usage : Usage) : Int :=
  if IsClaude answer usage ∧ ¬IsOpenRouterClaude answer usage then
    usage.promptTokens + usage.promptTokensDetails.cachedTokens + usage.promptTokensDetails.cachedCreationTokens
  else usage.promptTokens

/-- The counts of a usage are consistent with its semantics. -/
structure ConsistentUsage (answer : Answer) (usage : Usage) : Prop where
  prompt : 0 ≤ usage.promptTokens
  cached : 0 ≤ usage.promptTokensDetails.cachedTokens
  image : 0 ≤ usage.promptTokensDetails.imageTokens
  audio : 0 ≤ usage.promptTokensDetails.audioTokens
  split5m : 0 ≤ usage.claudeCacheCreation5mTokens
  split1h : 0 ≤ usage.claudeCacheCreation1hTokens
  creation : 0 ≤ usage.promptTokensDetails.cachedCreationTokens
  parts : ¬IsClaude answer usage → usage.promptTokensDetails.cachedTokens +
    usage.promptTokensDetails.cachedCreationTokens + usage.promptTokensDetails.imageTokens +
    usage.promptTokensDetails.audioTokens ≤ usage.promptTokens
  split : IsClaude answer usage → usage.claudeCacheCreation5mTokens + usage.claudeCacheCreation1hTokens ≤
    usage.promptTokensDetails.cachedCreationTokens
  included : IsOpenRouterClaude answer usage → usage.promptTokensDetails.cachedTokens +
    usage.promptTokensDetails.cachedCreationTokens ≤ usage.promptTokens

/-- Where Anthropic semantics are read: the cache creation is split completely, or comes with the usage of another
semantics; and an OpenRouter channel reports no cached tokens. -/
def CountedOnce (answer : Answer) (usage : Usage) : Prop :=
  IsClaude answer usage →
    if IsOpenRouterClaude answer usage then
      usage.promptTokensDetails.cachedTokens = 0 ∧
        if usage.usageSemantic = "anthropic" then
          usage.claudeCacheCreation5mTokens = 0 ∧ usage.claudeCacheCreation1hTokens = 0
        else usage.promptTokensDetails.cachedCreationTokens = 0
    else usage.usageSemantic = "anthropic" → usage.promptTokensDetails.cachedCreationTokens =
      usage.claudeCacheCreation5mTokens + usage.claudeCacheCreation1hTokens

variable {host : Host} {prices : PriceTables} {info : PricingInfo} {answer : Answer} {usage : Usage}

lemma isClaude_of_semantic (h : usage.usageSemantic = "anthropic") : IsClaude answer usage := by
  simp [IsClaude, usageSemanticFromUsage, h]

lemma tieredTokens_openai {used : Var → Bool} (hused : ∀ x ∈ [Var.cr, .cc, .cc1h, .img, .ai], used x)
    (hcons : ConsistentUsage answer usage) (h : ¬IsClaude answer usage) :
    let params := buildTieredTokenParams usage false used
    params.p + params.cr + params.cc + params.cc1h + (params.img + params.ai) = usage.promptTokens ∧
      params.len = usage.promptTokens := by
  have hsemantic : usage.usageSemantic ≠ "anthropic" := fun hs => h (isClaude_of_semantic hs)
  simp only [forall_mem_cons] at hused
  obtain ⟨hcr, hcc, hcc1h, himg, hai, -⟩ := hused
  have hparts : (0 : ℚ) ≤ usage.promptTokens - usage.promptTokensDetails.cachedTokens -
      usage.promptTokensDetails.cachedCreationTokens - 0 - usage.promptTokensDetails.imageTokens -
      usage.promptTokensDetails.audioTokens := by
    have hle := hcons.parts h
    have hcast : (0 : ℚ) ≤ ((usage.promptTokens - (usage.promptTokensDetails.cachedTokens +
        usage.promptTokensDetails.cachedCreationTokens + usage.promptTokensDetails.imageTokens +
        usage.promptTokensDetails.audioTokens) : Int) : ℚ) := by
      exact_mod_cast Int.sub_nonneg_of_le hle
    push_cast at hcast
    linarith
  simp only [buildTieredTokenParams, hsemantic, hcr, hcc, hcc1h, himg, hai, Bool.not_false, Bool.and_self, if_true,
    if_false, Bool.false_eq_true]
  refine ⟨?_, trivial⟩
  rw [max_eq_left hparts]
  ring

lemma tieredTokens_claude (used : Var → Bool) (hcons : ConsistentUsage answer usage) :
    let params := buildTieredTokenParams usage true used
    let written : Int := if usage.usageSemantic = "anthropic" then
        usage.claudeCacheCreation5mTokens + usage.claudeCacheCreation1hTokens
      else usage.promptTokensDetails.cachedCreationTokens
    params.p + params.cr + params.cc + params.cc1h =
        ((usage.promptTokens + usage.promptTokensDetails.cachedTokens + written : Int) : ℚ) ∧
      params.len = ((usage.promptTokens + usage.promptTokensDetails.cachedTokens + written : Int) : ℚ) := by
  have hprompt : (0 : ℚ) ≤ usage.promptTokens := by exact_mod_cast hcons.prompt
  simp only [buildTieredTokenParams, Bool.not_true, Bool.false_and, Bool.false_eq_true, if_false, if_true, sub_zero]
  rw [max_eq_left hprompt]
  split
  · constructor
    · push_cast
      ring
    · push_cast
      ring
  · constructor
    · push_cast
      ring
    · push_cast
      ring

/-- The parameters of an expression that uses the variables of all kinds of input tokens add up to the input
tokens exactly if the usage counts each of them once. -/
theorem tieredTokens_once_iff (husage : answer.usage = some usage) (hcons : ConsistentUsage answer usage)
    (hused : ∀ x ∈ [Var.cr, .cc, .cc1h, .img, .ai], tieredUsedVars host info x) :
    let isClaude := (calculateTextQuotaSummary prices info answer).isClaudeUsageSemantic
    let params := buildTieredTokenParams usage isClaude (tieredUsedVars host info)
    (params.p + params.cr + params.cc + params.cc1h + (if isClaude then 0 else params.img + params.ai) =
        inputTokens answer usage ∧ params.len = inputTokens answer usage) ↔ CountedOnce answer usage := by
  have hisClaude : (calculateTextQuotaSummary prices info answer).isClaudeUsageSemantic =
      decide (IsClaude answer usage) := by
    unfold calculateTextQuotaSummary IsClaude
    simp only [husage]
    exact decide_eq_decide.mpr Iff.rfl
  rw [hisClaude]
  intro isClaude params
  unfold CountedOnce inputTokens
  by_cases hclaude : IsClaude answer usage
  · obtain ⟨hsum, hlen⟩ := tieredTokens_claude (tieredUsedVars host info) hcons
    have htrue : isClaude = true := decide_eq_true hclaude
    simp only [params, htrue, if_true, add_zero, hsum, hlen, hclaude, true_and, and_self, forall_true_left]
    have hsplit := hcons.split hclaude
    have h5m := hcons.split5m
    have h1h := hcons.split1h
    have hcached := hcons.cached
    rw [Int.cast_inj]
    by_cases hrouter : IsOpenRouterClaude answer usage
    · split
      · omega
      · omega
    · split
      · next hs =>
        simp only [hs, forall_true_left]
        omega
      · next hs =>
        simp [hs]
  · obtain ⟨hsum, hlen⟩ := tieredTokens_openai hused hcons hclaude
    have hfalse : isClaude = false := decide_eq_false hclaude
    simp only [params, hfalse, Bool.false_eq_true, if_false, hsum, hlen, hclaude, false_and, false_implies, and_self]

def inputPriced : PricingInfo where
  originModelName := "m"
  tieredBillingSnapshot := some { exprString := "p + cr + cc + cc1h + img + ai" }

def claudeUsage (prompt cached creation tokens5m tokens1h : Int) : Usage where
  promptTokens := prompt
  usageSemantic := "anthropic"
  promptTokensDetails := { cachedTokens := cached, cachedCreationTokens := creation }
  claudeCacheCreation5mTokens := tokens5m
  claudeCacheCreation1hTokens := tokens1h

theorem tieredTokens_once_split :
    let usage := claudeUsage 10 5 100 60 40
    let params := buildTieredTokenParams usage true (tieredUsedVars plainHost inputPriced)
    params.p + params.cr + params.cc + params.cc1h = 115 ∧ params.len = 115 := by
  intro usage params
  let answer : Answer := { usage := some usage, finalRequestRelayFormat := .claude }
  have hcons : ConsistentUsage answer usage := by
    refine ⟨by decide, by decide, by decide, by decide, by decide, by decide, by decide, fun h => ?_,
      fun _ => by decide, fun h => ?_⟩
    · exact absurd (isClaude_of_semantic rfl) h
    · exact absurd h.1 (by decide)
  have honce := (@tieredTokens_once_iff plainHost {} inputPriced answer usage rfl hcons (by decide +kernel)).mpr
    (fun _ => by rw [if_neg (fun h => absurd h.1 (by decide))]; intro _; decide)
  have hclaude : (calculateTextQuotaSummary {} inputPriced answer).isClaudeUsageSemantic = true := by decide +kernel
  have htotal : inputTokens answer usage = 115 := by decide +kernel
  simpa only [hclaude, htotal, if_true, add_zero, Int.cast_ofNat] using honce

/-- Cache creation tokens that are not split are lost, and the cached tokens of an OpenRouter channel are counted
twice. -/
theorem tieredTokens_lost_or_twice : (let usage := claudeUsage 10 0 100 0 0
      let answer : Answer := { usage := some usage, finalRequestRelayFormat := .claude, channelType := some 14 }
      let params := buildTieredTokenParams usage true (tieredUsedVars plainHost inputPriced)
      inputTokens answer usage = 110 ∧ params.p + params.cr + params.cc + params.cc1h = 10 ∧ params.len = 10) ∧
    (let usage := claudeUsage 110 100 0 0 0
      let answer : Answer :=
        { usage := some usage, finalRequestRelayFormat := .claude, channelType := some channelTypeOpenRouter }
      let params := buildTieredTokenParams usage true (tieredUsedVars plainHost inputPriced)
      inputTokens answer usage = 110 ∧ params.p + params.cr + params.cc + params.cc1h = 210 ∧ params.len = 210) := by
  decide +kernel

end

end LoveApi.Proofs
