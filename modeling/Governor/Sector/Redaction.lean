import Mathlib
import Governor.Core.Regex
import Governor.Sector.Security

/-!
# Redacted content

ContentGuard searches a text for three patterns and replaces card numbers by a marker where it
lets the text through. Each pattern stands between word boundaries and starts with a digit or with
`s`, and the marker contains neither, so a redacted text has no match left and the rest of the text
is as it was.
-/

namespace Governor.Sector

/-! ## The patterns -/

/-- The characters that `re` takes for digits and for word characters. -/
structure CharTables where
  /-- `\d`. -/
  isDecimal : Char → Bool
  /-- `\w`. -/
  isWord : Char → Bool
  isWord_of_isDecimal : ∀ c, isDecimal c = true → isWord c = true
  isDecimal_ascii : ∀ c, c.val < 128 → isDecimal c = c.isDigit
  isWord_ascii : ∀ c, c.val < 128 → isWord c = (c.isAlphanum || c = '_')

/-- A character of a pattern. -/
def literal (c : Char) : Regex Char := .set fun d => d = c

/-- `[- ]?`. -/
def separator : Regex Char := .opt (.set fun c => c = '-' || c = ' ')

/-- `\bsk-[a-zA-Z0-9]{20,}\b`. -/
def secretApiKey : Regex Char :=
  .bounded <| .seq (literal 's') <| .seq (literal 'k') <| .seq (literal '-') <|
    .seq (Regex.times (.set Char.isAlphanum) 20) (.many Char.isAlphanum)

namespace CharTables

variable (t : CharTables)

/-- `\d{n}`. -/
def decimals (n : Nat) : Regex Char := Regex.times (.set t.isDecimal) n

/-- `\b\d{3}-\d{2}-\d{4}\b`. -/
def piiSsn : Regex Char :=
  .bounded <| .seq (t.decimals 3) <| .seq (literal '-') <| .seq (t.decimals 2) <|
    .seq (literal '-') (t.decimals 4)

/-- `\b\d{4}[- ]?\d{4}[- ]?\d{4}[- ]?\d{4}\b`. -/
def piiPan : Regex Char :=
  .bounded <| .seq (t.decimals 4) <| .seq separator <| .seq (t.decimals 4) <| .seq separator <|
    .seq (t.decimals 4) <| .seq separator (t.decimals 4)

/-- The patterns of `_DEFAULT_PATTERNS`, compiled. -/
def contentRegexes : List (Regex Char) := [t.piiSsn, secretApiKey, t.piiPan]

end CharTables

/-- The marker of a card number. -/
def panMarker : String := "[REDACTED:pii_pan]"

theorem panMarker_toList : panMarker.toList = ['[', 'R', 'E', 'D', 'A', 'C', 'T', 'E', 'D', ':',
    'p', 'i', 'i', '_', 'p', 'a', 'n', ']'] := by
  rfl

/-- `re` on the default patterns; a replacement without backslashes is inserted as it is. -/
structure SecurityEnv.Compiles (env : SecurityEnv) (t : CharTables) : Prop where
  search : ∀ p ∈ contentPatterns.zip t.contentRegexes, ∀ text,
    env.reSearch p.1.2 text = p.2.search t.isWord text.toList
  sub : ∀ p ∈ contentPatterns.zip t.contentRegexes, ∀ replacement text,
    '\\' ∉ replacement.toList → env.reSub p.1.2 replacement text =
      String.ofList (p.2.sub t.isWord replacement.toList text.toList)

/-! ## What the patterns match -/

namespace CharTables

variable (t : CharTables)

theorem isWord_of_isAlphanum {c : Char} (h : c.isAlphanum = true) : t.isWord c = true := by
  have hascii : c.val < 128 := by
    simp only [Char.isAlphanum, Char.isAlpha, Char.isUpper, Char.isLower, Char.isDigit,
      Bool.or_eq_true, Bool.and_eq_true, decide_eq_true_eq, ge_iff_le, UInt32.le_iff_toNat_le] at h
    rw [UInt32.lt_iff_toNat_lt]
    change ((65 ≤ c.val.toNat ∧ c.val.toNat ≤ 90) ∨ (97 ≤ c.val.toNat ∧ c.val.toNat ≤ 122)) ∨
      (48 ≤ c.val.toNat ∧ c.val.toNat ≤ 57) at h
    change c.val.toNat < 128
    omega
  rw [t.isWord_ascii c hascii, h, Bool.true_or]

theorem piiSsn_bordered : t.piiSsn.Bordered t.isWord := by
  refine Regex.bordered_bounded rfl (fun c hc => ?_) (fun c hc => ?_)
  · exact t.isWord_of_isDecimal c
      (by simpa [decimals, Regex.times, Regex.firsts, Regex.nullable] using hc)
  · exact t.isWord_of_isDecimal c
      (by simpa [decimals, Regex.times, Regex.lasts, Regex.nullable] using hc)

theorem piiPan_bordered : t.piiPan.Bordered t.isWord := by
  refine Regex.bordered_bounded rfl (fun c hc => ?_) (fun c hc => ?_)
  · exact t.isWord_of_isDecimal c
      (by simpa [decimals, Regex.times, Regex.firsts, Regex.nullable] using hc)
  · exact t.isWord_of_isDecimal c
      (by simpa [decimals, Regex.times, Regex.lasts, Regex.nullable] using hc)

theorem secretApiKey_bordered : secretApiKey.Bordered t.isWord := by
  refine Regex.bordered_bounded rfl (fun c hc => ?_) (fun c hc => ?_)
  · have hs : c = 's' := by simpa [literal, Regex.firsts, Regex.nullable] using hc
    exact t.isWord_of_isAlphanum (by rw [hs]; decide)
  · exact t.isWord_of_isAlphanum
      (by simpa [literal, Regex.times, Regex.lasts, Regex.nullable] using hc)

/-- A character of the marker is no digit. -/
theorem isDecimal_marker : ∀ c ∈ panMarker.toList, t.isDecimal c = false := by
  have hmarker : ∀ c ∈ panMarker.toList, c.val < 128 ∧ c.isDigit = false := by
    rw [panMarker_toList]
    simp
  intro c hc
  rw [t.isDecimal_ascii c (hmarker c hc).1, (hmarker c hc).2]

/-- No match of a pattern starts in the marker or contains its first character. -/
theorem marker_foreign : ∀ q ∈ t.contentRegexes,
    (∀ c ∈ panMarker.toList, q.firsts c = false) ∧ q.chars '[' = false := by
  have hopening := t.isDecimal_marker '[' (by decide +kernel)
  simp only [contentRegexes, List.forall_mem_cons, List.not_mem_nil, false_implies]
  refine ⟨⟨fun c hc => ?_, ?_⟩, ⟨fun c hc => ?_, by decide +kernel⟩, ⟨fun c hc => ?_, ?_⟩,
    fun _ => trivial⟩
  · simp [piiSsn, decimals, Regex.bounded, Regex.times, Regex.firsts, Regex.nullable,
      t.isDecimal_marker c hc]
  · simp [piiSsn, decimals, literal, Regex.bounded, Regex.times, Regex.chars, hopening]
  · have hs : ∀ c ∈ panMarker.toList, c ≠ 's' := by
      rw [panMarker_toList]
      simp
    simp [secretApiKey, literal, Regex.bounded, Regex.firsts, Regex.nullable, hs c hc]
  · simp [piiPan, decimals, Regex.bounded, Regex.times, Regex.firsts, Regex.nullable,
      t.isDecimal_marker c hc]
  · simp [piiPan, decimals, separator, Regex.bounded, Regex.times, Regex.chars, hopening]

theorem contentRegexes_bordered : ∀ q ∈ t.contentRegexes, q.Bordered t.isWord := by
  simp only [contentRegexes, List.forall_mem_cons, List.not_mem_nil, false_implies]
  exact ⟨t.piiSsn_bordered, t.secretApiKey_bordered, t.piiPan_bordered, fun _ => trivial⟩

/-- Once the card numbers are replaced, none is left, and no other pattern matches anew. -/
theorem search_marked {q : Regex Char} (hq : q ∈ t.contentRegexes) {text : List Char}
    (h : q = t.piiPan ∨ q.search t.isWord text = false) :
    q.search t.isWord (t.piiPan.sub t.isWord panMarker.toList text) = false := by
  obtain ⟨hstart, hforeign⟩ := t.marker_foreign q hq
  rw [panMarker_toList] at hstart ⊢
  rcases h with rfl | h
  · exact Regex.search_sub_self t.piiPan_bordered hstart hforeign
  · exact Regex.search_sub_of_search t.piiPan_bordered (t.contentRegexes_bordered q hq) hstart
      hforeign h

end CharTables

/-! ## Redacting -/

namespace SecurityEnv

variable {env : SecurityEnv} {t : CharTables} {r : ContentRequest}

/-- The text became the body: the pieces outside the card numbers are in both, in order, and each
card number is a match of its pattern where it stands. -/
def Redacts (t : CharTables) (text body : String) : Prop :=
  ∃ pieces : List (Regex.Piece Char), pieces.flatMap Regex.Piece.read = text.toList ∧
    pieces.flatMap (Regex.Piece.write panMarker.toList) = body.toList ∧
    ∀ before m after, pieces = before ++ .hit m :: after →
      t.piiPan.Accepts t.isWord (before.flatMap Regex.Piece.read).getLast? m
        (after.flatMap Regex.Piece.read).head?

/-- Content is redacted for a known principal, and where no other pattern matches. -/
theorem evaluateContent_redacted (h : (env.evaluateContent r).decision = "REDACTED") :
    ¬ (r.principalId = "" ∨ r.principalId = "unknown") ∧
      (∀ p ∈ contentPatterns, p.1 = "pii_ssn" ∨ p.1 = "secret_api_key" →
        env.reSearch p.2 r.textBody = false) ∧
      (env.evaluateContent r).redactedBody = some (env.redactMatches r.textBody) := by
  unfold evaluateContent at h ⊢
  simp only at h ⊢
  split_ifs at h ⊢ with hprincipal hmatched hblocked hrestricted hchannel
  · simp at h
  · simp at h
  · simp at h
  · simp at h
  · refine ⟨hprincipal, fun p hp hname => ?_, rfl⟩
    by_contra hfound
    have hmem : p.1 ∈ (contentPatterns.filter fun p => env.reSearch p.2 r.textBody).map Prod.fst :=
      List.mem_map_of_mem (List.mem_filter.mpr ⟨hp, Bool.eq_true_of_not_eq_false hfound⟩)
    rcases hname with hname | hname
    · exact hblocked (Or.inr (hname ▸ hmem))
    · exact hblocked (Or.inl (hname ▸ hmem))
  · simp at h

/-- Content without a match is allowed for a known principal. -/
theorem evaluateContent_allowed (hprincipal : ¬ (r.principalId = "" ∨ r.principalId = "unknown"))
    (h : ∀ p ∈ contentPatterns, env.reSearch p.2 r.textBody = false) :
    (env.evaluateContent r).decision = "ALLOWED" := by
  have hnone : (contentPatterns.filter fun p => env.reSearch p.2 r.textBody) = [] :=
    List.filter_eq_nil_iff.mpr fun p hp => by simp [h p hp]
  unfold evaluateContent
  simp only [if_neg hprincipal, hnone, List.map_nil, if_true]

theorem zip_contentRegexes (t : CharTables) : contentPatterns.zip t.contentRegexes =
    [(contentPatterns[0], t.piiSsn), (contentPatterns[1], secretApiKey),
      (contentPatterns[2], t.piiPan)] :=
  rfl

theorem search_others (hre : env.Compiles t) {text : String}
    (h : ∀ p ∈ contentPatterns, p.1 = "pii_ssn" ∨ p.1 = "secret_api_key" →
      env.reSearch p.2 text = false) :
    t.piiSsn.search t.isWord text.toList = false ∧
      secretApiKey.search t.isWord text.toList = false := by
  rw [← hre.search (contentPatterns[0], t.piiSsn) (by simp [zip_contentRegexes]),
    ← hre.search (contentPatterns[1], secretApiKey) (by simp [zip_contentRegexes])]
  exact ⟨h _ (List.getElem_mem _) (Or.inl rfl), h _ (List.getElem_mem _) (Or.inr rfl)⟩

/-- Where the other patterns do not match, redacting replaces the card numbers. -/
theorem redactMatches_eq (hre : env.Compiles t) {text : String}
    (h : ∀ p ∈ contentPatterns, p.1 = "pii_ssn" ∨ p.1 = "secret_api_key" →
      env.reSearch p.2 text = false) :
    env.redactMatches text =
      String.ofList (t.piiPan.sub t.isWord panMarker.toList text.toList) := by
  obtain ⟨hssn, hkey⟩ := search_others hre h
  change env.reSub contentPatterns[2].2 "[REDACTED:pii_pan]" (env.reSub contentPatterns[1].2
    "[REDACTED:secret_api_key]" (env.reSub contentPatterns[0].2 "[REDACTED:pii_ssn]" text)) = _
  rw [hre.sub (contentPatterns[0], t.piiSsn) (by simp [zip_contentRegexes]) _ _ (by decide +kernel),
    t.piiSsn_bordered.sub_eq_self hssn, String.ofList_toList,
    hre.sub (contentPatterns[1], secretApiKey) (by simp [zip_contentRegexes]) _ _
      (by decide +kernel),
    t.secretApiKey_bordered.sub_eq_self hkey, String.ofList_toList,
    hre.sub (contentPatterns[2], t.piiPan) (by simp [zip_contentRegexes]) _ _ (by decide +kernel)]
  rfl

/-- After the card numbers are replaced no pattern matches. -/
theorem search_redacted (hre : env.Compiles t) {text : String}
    (h : ∀ p ∈ contentPatterns, p.1 = "pii_ssn" ∨ p.1 = "secret_api_key" →
      env.reSearch p.2 text = false) :
    ∀ p ∈ contentPatterns, env.reSearch p.2 (env.redactMatches text) = false := by
  obtain ⟨hssn, hkey⟩ := search_others hre h
  have hlist : contentPatterns = [contentPatterns[0], contentPatterns[1], contentPatterns[2]] := rfl
  rw [redactMatches_eq hre h, hlist]
  simp only [List.forall_mem_cons, List.not_mem_nil, false_implies]
  refine ⟨?_, ?_, ?_, fun _ => trivial⟩
  · rw [hre.search (contentPatterns[0], t.piiSsn) (by simp [zip_contentRegexes]),
      String.toList_ofList]
    exact t.search_marked (by simp [CharTables.contentRegexes]) (Or.inr hssn)
  · rw [hre.search (contentPatterns[1], secretApiKey) (by simp [zip_contentRegexes]),
      String.toList_ofList]
    exact t.search_marked (by simp [CharTables.contentRegexes]) (Or.inr hkey)
  · rw [hre.search (contentPatterns[2], t.piiPan) (by simp [zip_contentRegexes]),
      String.toList_ofList]
    exact t.search_marked (by simp [CharTables.contentRegexes]) (Or.inl rfl)

/-- A redacted text has no match of a pattern and is allowed, and outside the card numbers it is
the text that was redacted. -/
theorem redacted_allowed (env : SecurityEnv) (t : CharTables) (hre : env.Compiles t)
    (r : ContentRequest) (hredacted : (env.evaluateContent r).decision = "REDACTED") :
    ∃ body, (env.evaluateContent r).redactedBody = some body ∧
      (∀ p ∈ contentPatterns, env.reSearch p.2 body = false) ∧
      (env.evaluateContent { r with textBody := body }).decision = "ALLOWED" ∧
      Redacts t r.textBody body := by
  obtain ⟨hprincipal, hothers, hbody⟩ := evaluateContent_redacted hredacted
  have hclean := search_redacted hre hothers
  refine ⟨env.redactMatches r.textBody, hbody, hclean,
    evaluateContent_allowed hprincipal hclean, ?_⟩
  refine ⟨t.piiPan.scanFrom t.isWord none 0 r.textBody.toList, t.piiPan_bordered.read_scanFrom,
    ?_, fun before m after hpieces => ?_⟩
  · rw [redactMatches_eq hre hothers, String.toList_ofList]
    rfl
  · have hcard := t.piiPan_bordered.accepts_of_hit hpieces
    rwa [Option.or_none] at hcard

end SecurityEnv

/-! ## A card number -/

/-- The ASCII characters. -/
def asciiTables : CharTables where
  isDecimal := Char.isDigit
  isWord c := c.isAlphanum || c = '_'
  isWord_of_isDecimal c h := by simp [Char.isAlphanum, h]
  isDecimal_ascii _ _ := rfl
  isWord_ascii _ _ := rfl

/-- The platform with `re` on the default patterns. -/
def redactingEnv : SecurityEnv :=
  let compiled := contentPatterns.zip asciiTables.contentRegexes
  { tenantEnv (.ofDigests [] fun _ => "") with
    reSearch := fun pattern text => (compiled.find? fun p => p.1.2 = pattern).elim false fun p =>
      p.2.search asciiTables.isWord text.toList
    reSub := fun pattern replacement text =>
      (compiled.find? fun p => p.1.2 = pattern).elim text fun p =>
        String.ofList (p.2.sub asciiTables.isWord replacement.toList text.toList) }

def cardContent : ContentRequest where
  contentId := "content-1"
  principalId := "agent-1"
  channel := "publish"
  textBody := "card 4111 1111-11111111, thanks"
  classificationHint := "internal"

example : (redactingEnv.evaluateContent cardContent).redactedBody =
    some "card [REDACTED:pii_pan], thanks" := by
  decide +kernel

theorem redactingEnv_compiles : redactingEnv.Compiles asciiTables := by
  constructor
  · rw [SecurityEnv.zip_contentRegexes]
    simp only [List.forall_mem_cons, List.not_mem_nil, false_implies]
    exact ⟨fun _ => rfl, fun _ => rfl, fun _ => rfl, fun _ => trivial⟩
  · rw [SecurityEnv.zip_contentRegexes]
    simp only [List.forall_mem_cons, List.not_mem_nil, false_implies]
    exact ⟨fun _ _ _ => rfl, fun _ _ _ => rfl, fun _ _ _ => rfl, fun _ => trivial⟩

/-- The redacted text is allowed. -/
theorem redacted_allowed_card :
    (redactingEnv.evaluateContent { cardContent with
      textBody := "card [REDACTED:pii_pan], thanks" }).decision = "ALLOWED" := by
  obtain ⟨body, hbody, -, hallowed, -⟩ := SecurityEnv.redacted_allowed redactingEnv asciiTables
    redactingEnv_compiles cardContent (by decide +kernel)
  have hredacted : (redactingEnv.evaluateContent cardContent).redactedBody =
      some "card [REDACTED:pii_pan], thanks" := by
    decide +kernel
  rw [hredacted] at hbody
  rwa [← Option.some.inj hbody] at hallowed

end Governor.Sector
