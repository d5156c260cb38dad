import BundleLedger.Tracing
import Mathlib.Data.List.Induction
import Mathlib.Tactic.Common

/-!
# One provider, with its exporters attached once

Any number of calls may configure tracing, ask for the provider, and attach processors that keep spans in memory. The
first of them that needs the provider makes it, and the first that configures tracing while its settings enable it
attaches exporters; what later calls would have asked for makes no difference. So after some calls the provider is
what these two and the number of attachments make it (`Tracing.Makes`). Each call keeps this (`Follows.answer`), and
so it holds after any calls (`follows_after`). Main statement: `Tracing.answers_one`.
-/

set_option autoImplicit false

namespace BundleLedger.Tracing

variable {t : Tracing} {calls : List Call} {call : Call} {p : Provider} {s : Settings}

/-! ### What calls ask for -/

namespace Call

/-- Whether a call configures tracing with settings that disable it. -/
def IsDisabled (call : Call) : Prop :=
  ∃ s, call = .configure s ∧ s.otelEnabled = false

/-- The settings of a call that configures tracing while they enable it. -/
def enabling? : Call → Option Settings
  | .configure s => if s.otelEnabled then some s else none
  | .get .. | .attachMemory _ => none

/-- The settings that a call makes the provider from if there is none. -/
def needed? : Call → Option Settings
  | .configure s => if s.otelEnabled then some s else none
  | .get given environment => some (given.getD environment)
  | .attachMemory environment => some environment

def isAttachment : Call → Bool
  | .attachMemory _ => true
  | .configure _ | .get .. => false

end Call

/-- The settings of the first call that needs the provider. -/
def neededBy (calls : List Call) : Option Settings :=
  calls.findSome? Call.needed?

/-- The settings of the first call that configures tracing while they enable it. -/
def enabledBy (calls : List Call) : Option Settings :=
  calls.findSome? Call.enabling?

/-- The number of calls that attach a processor that keeps spans in memory. -/
def attachments (calls : List Call) : ℕ :=
  calls.countP Call.isAttachment

/-- The exporters that some settings ask for: one to their endpoint unless its address is empty, and after it one to
the console. -/
def asked (s : Settings) : List Processor :=
  (s.otelEndpoint.toList.filter (· ≠ "")).map .endpoint ++ List.replicate s.otelConsole.toNat .console

/-- What a provider is when it was first needed with some settings, tracing was first enabled with others, if at all,
and processors that keep spans in memory were attached a number of times. -/
structure Makes (needed enabled : Option Settings) (attached : ℕ) (p : Provider) : Prop where
  /-- It is the first that was made. -/
  number : p.number = 0
  resource : needed.map .ofSettings = some p.resource
  exporters : p.processors.filter (· ≠ .memory) = (enabled.map asked).getD []
  memory : p.processors.count .memory = attached

/-! ### One call -/

/-- A state follows from some calls: there is a provider once one of them has needed it, and it is the only one. -/
structure Follows (calls : List Call) (t : Tracing) : Prop where
  made : t.made = t.provider.toList.length
  attached : t.exportersAttached = (enabledBy calls).isSome
  unneeded : t.provider = none → neededBy calls = none ∧ enabledBy calls = none ∧ attachments calls = 0
  makes : ∀ p, t.provider = some p → Makes (neededBy calls) (enabledBy calls) (attachments calls) p

theorem neededBy_concat : neededBy (calls ++ [call]) = (neededBy calls).or call.needed? := by
  simp [neededBy]

theorem enabledBy_concat : enabledBy (calls ++ [call]) = (enabledBy calls).or call.enabling? := by
  simp [enabledBy]

theorem attachments_concat : attachments (calls ++ [call]) = attachments calls + call.isAttachment.toNat := by
  cases h : call.isAttachment <;> simp [attachments, h]

theorem exporters_eq (s : Settings) : exporters s = asked s := by
  unfold exporters asked
  cases s.otelEndpoint <;> cases s.otelConsole <;> simp [List.filter_cons] <;> split <;> rfl

theorem memory_not_mem_asked (s : Settings) : Processor.memory ∉ asked s := by
  cases h : s.otelConsole <;> simp [asked, h]

/-- A provider that is asked for was needed, by this caller if by none before. -/
theorem Follows.makes_get (h : Follows calls t) (s : Settings) :
    Makes ((neededBy calls).or (some s)) (enabledBy calls) (attachments calls) (t.get s).1 := by
  cases hprovider : t.provider with
  | some p =>
    have hp := h.makes p hprovider
    obtain ⟨needed, hneeded, -⟩ := Option.map_eq_some_iff.1 hp.resource
    simpa [Tracing.get, hprovider, hneeded] using hp
  | none =>
    obtain ⟨hneeded, henabled, hattached⟩ := h.unneeded hprovider
    have hmade : t.made = 0 := by simpa [hprovider] using h.made
    simp only [Tracing.get, hprovider, hneeded, henabled, hattached, hmade]
    exact ⟨rfl, rfl, rfl, rfl⟩

/-- The state after a provider is asked for differs in nothing but the provider. -/
theorem Follows.get_snd (h : Follows calls t) (s : Settings) :
    (t.get s).2 = { t with provider := some (t.get s).1, made := 1 } := by
  have hmade := h.made
  cases hprovider : t.provider with
  | some p =>
    rw [hprovider] at hmade
    simp only [Tracing.get, hprovider]
    cases t
    simp_all
  | none =>
    rw [hprovider] at hmade
    simp only [Tracing.get, hprovider, hmade]
    rfl

theorem Makes.attach {needed enabled : Option Settings} {attached : ℕ} (h : Makes needed enabled attached p) :
    Makes needed enabled (attached + 1) { p with processors := p.processors ++ [.memory] } where
  number := h.number
  resource := h.resource
  exporters := by simpa using h.exporters
  memory := by simpa using h.memory

theorem Makes.export {needed : Option Settings} {attached : ℕ} (h : Makes needed none attached p) (s : Settings) :
    Makes needed (some s) attached { p with processors := p.processors ++ Tracing.exporters s } where
  number := h.number
  resource := h.resource
  exporters := by
    have hasked : (asked s).filter (· ≠ .memory) = asked s :=
      List.filter_eq_self.2 fun processor hmem ↦ by
        simpa using fun heq : processor = .memory ↦ memory_not_mem_asked s (heq ▸ hmem)
    rw [List.filter_append, h.exporters, exporters_eq, hasked]
    rfl
  memory := by
    rw [List.count_append, h.memory, exporters_eq, List.count_eq_zero_of_not_mem (memory_not_mem_asked s)]
    rfl

/-- A call that is disabled comes to no provider and changes nothing. -/
theorem answer_of_isDisabled (h : call.IsDisabled) : t.answer call = (none, t) := by
  obtain ⟨s, rfl, hs⟩ := h
  exact configure_of_disabled t s hs

theorem concat_of_isDisabled (calls : List Call) (h : call.IsDisabled) :
    neededBy (calls ++ [call]) = neededBy calls ∧ enabledBy (calls ++ [call]) = enabledBy calls ∧
      attachments (calls ++ [call]) = attachments calls := by
  obtain ⟨s, rfl, hs⟩ := h
  simp [neededBy_concat, enabledBy_concat, attachments_concat, Call.needed?, Call.enabling?, Call.isAttachment, hs]

/-- Every other call comes to the provider, as the calls with this one make it. -/
theorem Follows.answer_eq (h : Follows calls t) (hcall : ¬call.IsDisabled) :
    ∃ p, t.answer call = (some p, ⟨some p, t.exportersAttached || call.enabling?.isSome, 1⟩) ∧
      Makes (neededBy (calls ++ [call])) (enabledBy (calls ++ [call])) (attachments (calls ++ [call])) p := by
  rw [neededBy_concat, enabledBy_concat, attachments_concat]
  cases call with
  | configure s =>
    have hs : s.otelEnabled = true := by
      by_contra hnot
      exact hcall ⟨s, rfl, Bool.eq_false_iff.2 hnot⟩
    have hget := h.makes_get s
    cases hattached : t.exportersAttached with
    | true =>
      obtain ⟨first, hfirst⟩ := Option.isSome_iff_exists.1 (h.attached.symm.trans hattached)
      rw [hfirst] at hget
      refine ⟨(t.get s).1, ?_, ?_⟩
      · simp [Tracing.answer, configure, hs, h.get_snd, hattached]
      · simpa [Call.needed?, Call.isAttachment, hs, hfirst] using hget
    | false =>
      have hnone : enabledBy calls = none := by
        rw [← Option.not_isSome_iff_eq_none, ← h.attached, hattached]
        exact Bool.false_ne_true
      rw [hnone] at hget
      refine ⟨{ (t.get s).1 with processors := (t.get s).1.processors ++ exporters s }, ?_, ?_⟩
      · simp [Tracing.answer, configure, Call.enabling?, hs, h.get_snd, hattached]
      · simpa [Call.needed?, Call.enabling?, Call.isAttachment, hs, hnone] using hget.export s
  | get given environment =>
    refine ⟨(t.get (given.getD environment)).1, ?_, ?_⟩
    · simp [Tracing.answer, Call.enabling?, h.get_snd]
    · simpa [Call.needed?, Call.enabling?, Call.isAttachment] using h.makes_get (given.getD environment)
  | attachMemory environment =>
    refine ⟨{ (t.get environment).1 with processors := (t.get environment).1.processors ++ [.memory] }, ?_, ?_⟩
    · simp [Tracing.answer, attachMemory, Call.enabling?, h.get_snd]
    · simpa [Call.needed?, Call.enabling?, Call.isAttachment] using (h.makes_get environment).attach

theorem Follows.answer (h : Follows calls t) (call : Call) : Follows (calls ++ [call]) (t.answer call).2 := by
  by_cases hcall : call.IsDisabled
  · obtain ⟨hneeded, henabled, hattached⟩ := concat_of_isDisabled calls hcall
    rw [answer_of_isDisabled hcall]
    refine ⟨h.made, ?_, ?_, ?_⟩
    · rw [henabled, h.attached]
    · rw [hneeded, henabled, hattached]
      exact h.unneeded
    · rw [hneeded, henabled, hattached]
      exact h.makes
  · obtain ⟨p, hanswer, hp⟩ := h.answer_eq hcall
    rw [hanswer]
    refine ⟨rfl, ?_, nofun, fun q hprovider ↦ ?_⟩
    · rw [enabledBy_concat, h.attached, Option.isSome_or]
    · obtain rfl : p = q := Option.some.inj hprovider
      exact hp

/-! ### Any calls -/

theorem follows_fresh : Follows [] fresh where
  made := rfl
  attached := rfl
  unneeded _ := ⟨rfl, rfl, rfl⟩
  makes := nofun

/-- By induction on the calls: every state of a process follows from the calls so far. -/
theorem follows_after (calls : List Call) : Follows calls (fresh.after calls) := by
  induction calls using List.reverseRecOn with
  | nil => exact follows_fresh
  | append_singleton calls call ih =>
    have hlast : fresh.after (calls ++ [call]) = ((fresh.after calls).answer call).2 := List.foldl_append
    rw [hlast]
    exact ih.answer call

/-- Whatever calls came before, a call comes to no provider exactly if it configures tracing with settings that
disable it, and then it changes nothing. Every other call comes to the provider that the state keeps: the first that
was made, with what the calls up to this one make of it. -/
theorem answers_one (before : List Call) (call : Call) :
    ((((fresh.after before).answer call).1 = none ↔ ∃ s, call = .configure s ∧ s.otelEnabled = false) ∧
      (((fresh.after before).answer call).1 = none → ((fresh.after before).answer call).2 = fresh.after before)) ∧
      ∀ p, ((fresh.after before).answer call).1 = some p →
        ((fresh.after before).answer call).2.provider = some p ∧ ((fresh.after before).answer call).2.made = 1 ∧
          Makes (neededBy (before ++ [call])) (enabledBy (before ++ [call])) (attachments (before ++ [call])) p := by
  by_cases hcall : call.IsDisabled
  · rw [answer_of_isDisabled hcall]
    exact ⟨⟨iff_of_true rfl hcall, fun _ ↦ rfl⟩, nofun⟩
  · obtain ⟨p, hanswer, hp⟩ := (follows_after before).answer_eq hcall
    rw [hanswer]
    refine ⟨⟨iff_of_false (by simp) hcall, nofun⟩, fun q hq ↦ ?_⟩
    obtain rfl : p = q := Option.some.inj hq
    exact ⟨rfl, rfl, hp⟩

/-- Settings that say where the process runs and where its spans go. -/
def settingsOf (place : String) (enabled : Bool) (endpoint : Option String) (console : Bool) : Settings where
  appName := "ledger"
  appVersion := "1"
  appEnv := place
  appDebug := false
  apiPort := 8000
  logLevel := "INFO"
  databaseUrl := ""
  redisUrl := ""
  jwtSecret := ""
  jwtAlgorithm := "HS256"
  metricsEnabled := false
  otelEnabled := enabled
  otelServiceName := "ledger"
  otelEndpoint := endpoint
  otelConsole := console
  refreshWorkers := 8
  referenceCurrency := "USD"
  autoRefresh := false

/-- An attachment makes the provider, then a call configures it, and another one would have liked to. -/
def callsBefore : List Call :=
  [.attachMemory (settingsOf "first" false none false), .configure (settingsOf "second" false none true),
    .configure (settingsOf "third" true (some "http://spans") true)]

theorem answers_one_sample :
    ((fresh.after callsBefore).answer (.configure (settingsOf "fourth" true (some "http://other") false))).1 =
        some ⟨0, ⟨"ledger", "1", "first"⟩, [.memory, .endpoint "http://spans", .console]⟩ ∧
      Makes (some (settingsOf "first" false none false)) (some (settingsOf "third" true (some "http://spans") true)) 1
        ⟨0, ⟨"ledger", "1", "first"⟩, [.memory, .endpoint "http://spans", .console]⟩ := by
  have hanswer :
      ((fresh.after callsBefore).answer (.configure (settingsOf "fourth" true (some "http://other") false))).1 =
        some ⟨0, ⟨"ledger", "1", "first"⟩, [.memory, .endpoint "http://spans", .console]⟩ := by
    decide
  exact ⟨hanswer, ((answers_one callsBefore _).2 _ hanswer).2.2⟩

end BundleLedger.Tracing
