import AdConfirm.Proofs.Outcome
import AdConfirm.Proofs.Policy.Live

/-!
What can fail at a policy center, and what a failure leaves behind.

Only overrides that are readable over any base are ever held, so rebuilding the policy never fails. What is left to fail is what
comes from outside: an override whose path or value is no good, and a base that cannot be loaded. Both are found out before
anything has changed. So is a deadline that the clock cannot tell, over which the call breaks down.

- `Setting.Takes`, `read_isOk_iff`: the values of the kind that a setting takes.
- `check_eq_error_iff`: why an override is refused.
- `apply_cases`: all that applying an override comes to. `apply_eq_failed_iff`, `apply_eq_brokeDown_iff`: which are not applied.
- `reload_eq_error_iff`: why a base is not loaded.
- `only_requests_fail`: at every moment of every run, nothing else fails, and what fails changes nothing.
-/

namespace AdConfirm.Policy

namespace Setting

/-- the value is of the kind that the setting takes: a truth value; a positive whole number of 64 bits; or hosts, as an array
of texts, as one text, or as nothing -/
def Takes : Setting → Json.Value → Prop
  | .adsEnabled, x => ∃ b, x = .bool b
  | .confirmationEvents, x => ∃ b, x = .bool b
  | .allowedHosts, x => x = .null ∨ (∃ s, x = .text s) ∨ ∃ items, x = .array items ∧ ∀ i ∈ items, ∃ s, i = .text s
  | .fetchTimeout, x => ∃ n : UInt64, n ≠ 0 ∧ x = .number (.natural n)
  | .reportTimeout, x => ∃ n : UInt64, n ≠ 0 ∧ x = .number (.natural n)

end Setting

theorem readSwitch_isOk_iff {x : Json.Value} : (∃ b, readSwitch x = .ok b) ↔ ∃ b, x = .bool b := by
  cases x <;> simp [readSwitch, Json.Value.asBool?]

theorem readTimeout_isOk_iff {x : Json.Value} :
    (∃ n, readTimeout x = .ok n) ↔ ∃ n : UInt64, n ≠ 0 ∧ x = .number (.natural n) := by
  cases x with
  | number y =>
    cases y with
    | natural n => by_cases hn : n = 0 <;> simp [readTimeout, Json.Value.asNatural?, hn]
    | _ => simp [readTimeout, Json.Value.asNatural?]
  | _ => simp [readTimeout, Json.Value.asNatural?]

theorem readHost_isOk_iff {x : Json.Value} : (∃ s, readHost x = .ok s) ↔ ∃ s, x = .text s := by
  cases x <;> simp [readHost, Json.Value.asText?]

theorem readHosts_isOk_iff {x : Json.Value} : (∃ hs, readHosts x = .ok hs) ↔ Setting.allowedHosts.Takes x := by
  cases x with
  | array items =>
    have hitems : (∃ hs, readHosts (.array items) = .ok hs) ↔ ∃ hs, items.mapM readHost = .ok hs := by
      rw [readHosts]
      cases items.mapM readHost <;> simp [Except.map]
    rw [hitems, mapM_isOk_iff]
    simp only [readHost_isOk_iff]
    simp [Setting.Takes]
  | _ => simp [readHosts, Setting.Takes]

/-- A setting reads the values of its kind, and no others. -/
theorem read_isOk_iff {s : Setting} {x : Json.Value} : (∃ v, s.read x = .ok v) ↔ s.Takes x := by
  cases s with
  | adsEnabled => exact readSwitch_isOk_iff
  | confirmationEvents => exact readSwitch_isOk_iff
  | allowedHosts => exact readHosts_isOk_iff
  | fetchTimeout => exact readTimeout_isOk_iff
  | reportTimeout => exact readTimeout_isOk_iff

namespace Center

/-- An override is refused for its path if that names no setting, and else for its value if the setting does not take it. -/
theorem check_eq_error_iff {s : OverrideSpec} {e : PolicyError} :
    check s = .error e ↔
      (∀ x : Setting, s.path ≠ x.path) ∧ e = .unsupportedPath s.path ∨
        ∃ x : Setting, s.path = x.path ∧ ∃ fault, x.read s.value = .error fault ∧ e = .invalidValue fault := by
  unfold check Snapshot.lay
  cases hx : Setting.ofPath? s.path with
  | none =>
    have hnone : ∀ x : Setting, s.path ≠ x.path := by
      intro x hpath
      rw [Setting.ofPath?_eq_some_iff.2 hpath] at hx
      cases hx
    constructor
    · rintro ⟨⟩
      exact .inl ⟨hnone, rfl⟩
    · rintro (⟨-, rfl⟩ | ⟨x, hpath, -⟩)
      · rfl
      · exact absurd hpath (hnone x)
  | some x =>
    have hpath : s.path = x.path := Setting.ofPath?_eq_some_iff.1 hx
    cases hv : x.read s.value with
    | ok v =>
      simp only [Except.map, hv]
      constructor
      · rintro ⟨⟩
      · rintro (⟨hnone, -⟩ | ⟨y, hy, fault, hfault, -⟩)
        · exact absurd hpath (hnone x)
        · obtain rfl := Option.some.inj ((Setting.ofPath?_eq_some_iff.2 hy).symm.trans hx)
          rw [hv] at hfault
          cases hfault
    | error fault =>
      simp only [Except.map, hv]
      constructor
      · rintro ⟨⟩
        exact .inr ⟨x, hpath, fault, hv, rfl⟩
      · rintro (⟨hnone, -⟩ | ⟨y, hy, fault', hfault, rfl⟩)
        · exact absurd hpath (hnone x)
        · obtain rfl := Option.some.inj ((Setting.ofPath?_eq_some_iff.2 hy).symm.trans hx)
          rw [hv] at hfault
          obtain rfl := Except.error.inj hfault
          rfl

end Center

namespace Machine

variable {m : Machine}

theorem apply_of_check_error {s : OverrideSpec} {e : PolicyError} (h : Center.check s = .error e) :
    m.apply s = (m, .error (.failed e)) := by
  simp [apply, Center.apply_of_check_error _ _ h, Center.applyLines, h, note]

theorem apply_of_not_fits {s : OverrideSpec} (h : Center.check s = .ok ()) (hfits : ¬ s.Fits m.agenda.now) :
    m.apply s = (m.note [s.line], .error .brokeDown) := by
  simp [apply, Center.apply_of_not_fits _ h hfits, Center.applyLines, h, note]

/-- An override is refused, or the call breaks down over its deadline, or it is applied: the rebuilding that follows does not
fail. -/
theorem apply_cases (h : m.center.Sound) (s : OverrideSpec) :
    (∃ e, Center.check s = .error e ∧ m.apply s = (m, .error (.failed e))) ∨
      (Readable s.path s.value ∧ ¬ s.Fits m.agenda.now ∧ m.apply s = (m.note [s.line], .error .brokeDown)) ∨
        (s.Applies m.agenda.now ∧ (m.apply s).2 = .ok ()) := by
  cases hcheck : Center.check s with
  | error e => exact .inl ⟨e, rfl, apply_of_check_error hcheck⟩
  | ok u =>
    have hs := Center.check_eq_ok_iff.1 hcheck
    by_cases hfits : s.Fits m.agenda.now
    · exact .inr (.inr ⟨⟨hs, hfits⟩, (apply_eq_ok_iff h).2 ⟨hs, hfits⟩⟩)
    · exact .inr (.inl ⟨hs, hfits, apply_of_not_fits hcheck hfits⟩)

/-- An override fails if it is refused. -/
theorem apply_eq_failed_iff (h : m.center.Sound) {s : OverrideSpec} {e : PolicyError} :
    (m.apply s).2 = .error (.failed e) ↔ Center.check s = .error e := by
  refine ⟨fun happly => ?_, fun hcheck => by rw [apply_of_check_error hcheck]⟩
  rcases apply_cases h s with ⟨e', hcheck, heq⟩ | ⟨-, -, heq⟩ | ⟨-, heq⟩ <;> rw [heq] at happly <;> cases happly
  exact hcheck

/-- The call breaks down over a deadline that the clock cannot tell. -/
theorem apply_eq_brokeDown_iff (h : m.center.Sound) {s : OverrideSpec} :
    (m.apply s).2 = .error .brokeDown ↔ Readable s.path s.value ∧ ¬ s.Fits m.agenda.now := by
  refine ⟨fun happly => ?_, fun ⟨hs, hfits⟩ => by rw [apply_of_not_fits (Center.check_eq_ok_iff.2 hs) hfits]⟩
  rcases apply_cases h s with ⟨e, -, heq⟩ | ⟨hs, hfits, -⟩ | ⟨-, heq⟩
  · rw [heq] at happly
    cases happly
  · exact ⟨hs, hfits⟩
  · rw [heq] at happly
    cases happly

/-- An override that fails changes nothing. -/
theorem apply_unchanged (h : m.center.Sound) {s : OverrideSpec} {e : PolicyError}
    (he : (m.apply s).2 = .error (.failed e)) : (m.apply s).1 = m := by
  rw [apply_of_check_error ((apply_eq_failed_iff h).1 he)]

/-- A call that breaks down has logged its line, and nothing else. -/
theorem apply_logged (h : m.center.Sound) {s : OverrideSpec} (hs : (m.apply s).2 = .error .brokeDown) :
    (m.apply s).1 = m.note [s.line] := by
  obtain ⟨hreadable, hfits⟩ := (apply_eq_brokeDown_iff h).1 hs
  rw [apply_of_not_fits (Center.check_eq_ok_iff.2 hreadable) hfits]

theorem apply_fails_iff (h : m.center.Sound) (s : OverrideSpec) :
    (∃ e, (m.apply s).2 = .error (.failed e)) ↔
      (∀ x : Setting, s.path ≠ x.path) ∨ ∃ x : Setting, s.path = x.path ∧ ¬ x.Takes s.value := by
  have htakes : ∀ x : Setting, (∃ fault, x.read s.value = .error fault) ↔ ¬ x.Takes s.value := by
    intro x
    rw [← read_isOk_iff]
    cases x.read s.value <;> simp
  simp only [apply_eq_failed_iff h, Center.check_eq_error_iff, ← htakes]
  constructor
  · rintro ⟨e, ⟨hnone, -⟩ | ⟨x, hx, fault, hfault, -⟩⟩
    · exact .inl hnone
    · exact .inr ⟨x, hx, fault, hfault⟩
  · rintro (hnone | ⟨x, hx, fault, hfault⟩)
    · exact ⟨_, .inl ⟨hnone, rfl⟩⟩
    · exact ⟨_, .inr ⟨x, hx, fault, hfault, rfl⟩⟩

theorem apply_breaks_down_iff (h : m.center.Sound) (s : OverrideSpec) :
    (m.apply s).2 = .error .brokeDown ↔
      (∃ x : Setting, s.path = x.path ∧ x.Takes s.value) ∧ s.ttl ≠ 0 ∧
        1000 * 2 ^ 63 ≤ m.agenda.now + 1000 * s.ttl.toNat := by
  have hclock : clockSize = 1000 * 2 ^ 63 := rfl
  simp only [apply_eq_brokeDown_iff h, Readable, OverrideSpec.Fits, hclock, ← read_isOk_iff, exists_and_left, not_or, not_lt,
    ne_eq]

/-- Taking back an override never fails; it tells whether there was one. -/
theorem clear_result (h : m.center.Sound) (path : String) :
    (m.clear path).2 = .ok (m.center.overrides.find? path).isSome := by
  cases ho : m.center.overrides.find? path with
  | none => simp [clear, Center.clear_eq_of_not_held m.agenda.now ho]
  | some o =>
    obtain ⟨c, hc, -⟩ := Center.clear_eq_of_held h m.agenda.now ho
    simp [clear, hc]

/-- A reload fails as loading does, and fails without sources. -/
theorem reload_eq_error_iff (h : m.center.Sound) {e : PolicyError} :
    m.reload.2 = .error e ↔
      m.center.source = none ∧ e = .reloadUnavailable ∨
        ∃ x, m.center.source = some x ∧ load m.surroundings x = .error e := by
  cases hx : m.center.source with
  | none =>
    have hreload : m.reload.2 = .error .reloadUnavailable := by simp [reload, Center.reload, hx]
    rw [hreload]
    simp [eq_comm]
  | some x =>
    cases hload : load m.surroundings x with
    | ok base =>
      have hreload : m.reload.2 = .ok () := (reload_eq_ok_iff h).2 ⟨base, x, hx, hload⟩
      rw [hreload]
      simp [hload]
    | error f =>
      have hnoting : (loadNoting m.surroundings x).2 = .error f := hload
      have hreload : m.reload.2 = .error f := by simp [reload, Center.reload, hx, hnoting]
      rw [hreload]
      simp [hload]

/-- A reload that fails changes nothing; it may have logged the files that it looked into. -/
theorem reload_unchanged (h : m.center.Sound) {e : PolicyError} (he : m.reload.2 = .error e) :
    m.reload.1 = { m with log := m.reload.1.log } := by
  have hnone : ∀ x base, m.center.source = some x → load m.surroundings x ≠ .ok base := by
    intro x base hx hbase
    have hok : m.reload.2 = .ok () := (reload_eq_ok_iff h).2 ⟨base, x, hx, hbase⟩
    rw [he] at hok
    cases hok
  have hsame : (m.center.reload m.agenda.now m.surroundings).1 = m.center :=
    (Center.reload_eq_of_not_load m.agenda.now hnone).1
  simp [reload, note, hsame]

end Machine

/-- Where all overrides are readable, the policy can be rebuilt. -/
theorem Center.recompute_ok {c : Center} (h : c.Sound) (now : Nat) : (c.recompute now).2 = .ok () := by
  obtain ⟨c', hc', -⟩ := refresh_rebuilt now fun _ _ ho => h.readable ho
  cases hr : c.recompute now with
  | mk d r =>
    cases r with
    | ok u => rfl
    | error e => simp [refresh, hr] at hc'

/-- A timer that finds its override expired rebuilds the policy. -/
theorem Center.expire_ok {c : Center} (h : c.Sound) (now : Nat) {path : String} {rest : Overrides}
    (hrest : c.overrides.expire now path = (rest, true)) :
    ({ c with overrides := rest }.refresh now).2 = .ok () := by
  have hrest' : rest = c.overrides.erase path := by
    unfold Overrides.expire at hrest
    split at hrest
    · split at hrest <;> simp_all
    · simp at hrest
  obtain ⟨c', hc', -⟩ := erase_rebuilt h now path
  rw [hrest', hc']

/-- **Only what comes from outside fails, and it leaves no trace.** Every run is a play with the same commands. After every
play, whatever was applied, cleared and reloaded and whatever timers ran down: the policy can be rebuilt from its base and
the overrides that are held. So applying an override fails only for a path that names no setting or a value that the setting does
not take; taking one back never fails; a reload fails only without sources or with sources that do not load; and a timer that
takes its override back never fails. With a good path and a good value, the call breaks down if the override would end later than
the clock can tell, and for no other reason. An override that fails and a reload that fails leave the center, its timers, its
surroundings and its watchers as they were; so does a call that breaks down, which has but logged its line. -/
theorem only_requests_fail (base : Snapshot) (source : Option Options) (w : Surroundings) :
    (∀ ops, ∃ acts, (Machine.ofCenter (.build base source) w).run ops = after base source w acts ∧
      acts.filterMap Act.command? = ops.filterMap Op.command?) ∧
    ∀ acts, let m := after base source w acts
      (∀ now, (m.center.recompute now).2 = .ok ()) ∧
      (∀ s, (∃ e, (m.apply s).2 = .error (.failed e)) ↔
        (∀ x : Setting, s.path ≠ x.path) ∨ ∃ x : Setting, s.path = x.path ∧ ¬ x.Takes s.value) ∧
      (∀ s, (m.apply s).2 = .error .brokeDown ↔
        (∃ x : Setting, s.path = x.path ∧ x.Takes s.value) ∧ s.ttl ≠ 0 ∧
          1000 * 2 ^ 63 ≤ m.agenda.now + 1000 * s.ttl.toNat) ∧
      (∀ path, ∃ held, (m.clear path).2 = .ok held) ∧
      ((∃ e, m.reload.2 = .error e) ↔ source = none ∨ ∃ x e, source = some x ∧ load m.surroundings x = .error e) ∧
      (∀ now path rest, m.center.overrides.expire now path = (rest, true) →
        ({ m.center with overrides := rest }.refresh now).2 = .ok ()) ∧
      (∀ s e, (m.apply s).2 = .error (.failed e) → (m.apply s).1 = m) ∧
      (∀ s, (m.apply s).2 = .error .brokeDown → (m.apply s).1 = m.note [s.line]) ∧
      (∀ e, m.reload.2 = .error e → m.reload.1 = { m with log := m.reload.1.log }) := by
  refine ⟨Machine.run_eq_play _, ?_⟩
  intro acts m
  have hsound : m.center.Sound := (after_inv base source w acts).sound
  have hsource : m.center.source = source := after_source base source w acts
  refine ⟨Center.recompute_ok hsound, Machine.apply_fails_iff hsound, Machine.apply_breaks_down_iff hsound,
    fun path => ⟨_, Machine.clear_result hsound path⟩, ?_, fun now path rest => Center.expire_ok hsound now,
    fun s e => Machine.apply_unchanged hsound, fun s => Machine.apply_logged hsound, fun e => Machine.reload_unchanged hsound⟩
  simp only [Machine.reload_eq_error_iff hsound, hsource]
  constructor
  · rintro ⟨e, ⟨hnone, -⟩ | ⟨x, hx, hload⟩⟩
    · exact .inl hnone
    · exact .inr ⟨x, e, hx, hload⟩
  · rintro (hnone | ⟨x, e, hx, hload⟩)
    · exact ⟨_, .inl ⟨hnone, rfl⟩⟩
    · exact ⟨e, .inr ⟨x, hx, hload⟩⟩

/-- an override that is to expire, and then a policy file that cannot be read any more -/
def brokenFile : List Act :=
  [.command (.apply ⟨"ads.enabled", .bool false, "ops", "stop", 1⟩), .command (.surround ⟨fun _ => .unreadable "denied", []⟩)]

/-- an override that would end when the clock has run out of seconds -/
def pastClock : OverrideSpec := ⟨"ads.enabled", .bool true, "ops", "never", 9223372036854775808⟩

theorem only_requests_fail_broken_file :
    let m := after .start (some ⟨["policy.yaml"], true, true⟩) ⟨fun _ => .missing, []⟩ brokenFile
    m.center.snapshot.adsEnabled = false ∧
      (∃ e, (m.apply ⟨"ads.enabled", .text "no", "ops", "typo", 0⟩).2 = .error (.failed e)) ∧
      (m.apply ⟨"ads.enabled", .text "no", "ops", "typo", 0⟩).1 = m ∧
      (m.apply pastClock).2 = .error .brokeDown ∧ (m.apply pastClock).1 = m.note [pastClock.line] ∧
      (∃ e, m.reload.2 = .error e) ∧ m.reload.1 = { m with log := m.reload.1.log } ∧
      (m.center.overrides.expire 1000 "ads.enabled").2 = true ∧
      ({ m.center with overrides := (m.center.overrides.expire 1000 "ads.enabled").1 }.refresh 1000).2 = .ok () := by
  intro m
  obtain ⟨-, happly, hbreaks, -, hreload, hexpire, hrefused, hlogged, hfailed⟩ :=
    (only_requests_fail .start (some ⟨["policy.yaml"], true, true⟩) ⟨fun _ => .missing, []⟩).2 brokenFile
  obtain ⟨e, he⟩ := (happly ⟨"ads.enabled", .text "no", "ops", "typo", 0⟩).2 (.inr ⟨.adsEnabled, rfl, by simp [Setting.Takes]⟩)
  have hpast : (m.apply pastClock).2 = .error .brokeDown :=
    (hbreaks pastClock).2 ⟨⟨.adsEnabled, rfl, true, rfl⟩, by decide, Nat.le_add_left ..⟩
  have hload : load m.surroundings ⟨["policy.yaml"], true, true⟩ = .error (.unreadable "policy.yaml" "denied") := rfl
  obtain ⟨f, hf⟩ := hreload.2 (.inr ⟨_, _, rfl, hload⟩)
  have hdue : (m.center.overrides.expire 1000 "ads.enabled").2 = true := by decide +kernel
  exact ⟨by decide +kernel, ⟨e, he⟩, hrefused _ e he, hpast, hlogged pastClock hpast, ⟨f, hf⟩, hfailed f hf, hdue,
    hexpire 1000 "ads.enabled" _ (Prod.ext rfl hdue)⟩

end AdConfirm.Policy
