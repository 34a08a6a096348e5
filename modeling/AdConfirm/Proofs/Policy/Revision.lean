import AdConfirm.Pipeline.Gate
import AdConfirm.Proofs.Policy.Live

/-!
What a policy center publishes, and at which revisions.

The center is changed in four ways: an override is applied, one is taken back, the base is loaded anew, and a timer takes back
an override that has expired. Each of them publishes one policy when it takes effect, at the revision after the one before.

- `Publishes`: the acts that publish.
- `Announced`: what publishing does to a center.
- `act_announced`, `act_silent`: an act that publishes does this once, and every other act leaves the center as it was.
- `one_revision_per_publication`: the revisions of every run, and what who watches reads.
-/

namespace AdConfirm.Policy

namespace Center

def lastRevision : Nat := UInt64.size - 1

theorem toNat_nextRevision (r : UInt64) : (nextRevision r).toNat = min (r.toNat + 1) lastRevision := by
  have hr : r.toNat < UInt64.size := r.toNat_lt
  unfold nextRevision lastRevision
  split
  · next hlt =>
    rw [UInt64.toNat_add, UInt64.toNat_one, Nat.mod_eq_of_lt hlt]
    omega
  · omega

/-- the center has published once more, what is in force now, at the next revision -/
structure Announced (c c' : Center) : Prop where
  published : c'.published = c.published + 1
  revision : c'.revision = nextRevision c.revision
  rev : c'.snapshot.rev = c'.revision
  watched : c'.watched = c'.snapshot

theorem refresh_announced {c c' : Center} {now : Nat} (h : c.refresh now = (c', .ok ())) : c.Announced c' := by
  unfold refresh at h
  split at h
  · cases h
  · next d hd =>
    cases h
    unfold recompute at hd
    dsimp only at hd
    split at hd
    · cases hd
    · cases hd
      exact ⟨rfl, rfl, rfl, rfl⟩

theorem apply_announced {c c' : Center} {now : Nat} {s : OverrideSpec} {timer : Option Expiry}
    (h : c.apply now s = (c', .ok timer)) : c.Announced c' := by
  unfold apply at h
  cases hcheck : check s with
  | error e =>
    rw [hcheck] at h
    cases h
  | ok u =>
    simp only [hcheck] at h
    split at h
    · cases h
    · split at h
      · cases h
      · next d hd =>
        cases h
        have hannounced := refresh_announced hd
        exact ⟨hannounced.published, hannounced.revision, hannounced.rev, hannounced.watched⟩

theorem clear_announced {c c' : Center} {now : Nat} {path : String} (h : c.clear now path = (c', .ok true)) :
    c.Announced c' := by
  unfold clear Overrides.remove at h
  cases ho : c.overrides.find? path with
  | none => simp [ho] at h
  | some o =>
    simp only [ho] at h
    split at h
    · cases h
    · next d hd =>
      cases h
      have hannounced := refresh_announced hd
      exact ⟨hannounced.published, hannounced.revision, hannounced.rev, hannounced.watched⟩

theorem reload_announced {c : Center} {now : Nat} {w : Surroundings} (h : (c.reload now w).2.1 = .ok ()) :
    c.Announced (c.reload now w).1 := by
  unfold reload at h ⊢
  split at h
  · cases h
  · next x hx =>
    simp only [hx]
    cases hload : (loadNoting w x).2 with
    | error e => simp [hload] at h
    | ok base =>
      simp only [hload] at h ⊢
      split at h
      · cases h
      · next d hd =>
        rw [hx] at hd
        rw [hd]
        have hannounced := refresh_announced hd
        exact ⟨hannounced.published, hannounced.revision, hannounced.rev, hannounced.watched⟩

end Center

namespace Machine

/-- the acts that publish: an override that is applied, one that is taken back, a base that is loaded anew, and the turn of a
timer whose override is still there and has expired -/
inductive Publishes (m : Machine) : Act → Prop where
  | applied {s : OverrideSpec} (h : (m.apply s).2 = .ok ()) : Publishes m (.command (.apply s))
  | cleared {path : String} (h : (m.clear path).2 = .ok true) : Publishes m (.command (.clear path))
  | reloaded (h : m.reload.2 = .ok ()) : Publishes m (.command .reload)
  | expired {path : String} {rest : List Expiry} {o : Override} (hr : m.agenda.ready = .due path :: rest)
      (ho : m.center.overrides.find? path = some o) (hd : o.isLive m.agenda.now = false) : Publishes m (.beat .turn)

variable {m : Machine}

/-- An act that publishes does this once, at the next revision. -/
theorem act_announced (h : m.center.Sound) {a : Act} (ha : Publishes m a) : m.center.Announced (m.act a).center := by
  cases ha with
  | @applied s hok =>
    obtain ⟨o, c, -, hc, -⟩ := Center.apply_eq_of_applies h ((apply_eq_ok_iff h).1 hok)
    have hcenter : (m.act (.command (.apply s))).center = c := by
      simp only [act, command, apply, hc]
      cases s.timer? <;> rfl
    rw [hcenter]
    exact Center.apply_announced hc
  | @cleared path hok => exact Center.clear_announced (Prod.ext rfl hok)
  | reloaded hok => exact Center.reload_announced hok
  | @expired path rest o hr ho hd =>
    obtain ⟨c, hc, -⟩ := Center.erase_rebuilt h m.agenda.now path
    have hcenter : (m.act (.beat .turn)).center = c := by
      rw [act_turn hr]
      simp [turn, Center.expire, Overrides.expire, ho, hd, hc]
    rw [hcenter]
    have hannounced := Center.refresh_announced hc
    exact ⟨hannounced.published, hannounced.revision, hannounced.rev, hannounced.watched⟩

/-- Every other act leaves the center as it was. -/
theorem act_silent (h : m.center.Sound) {a : Act} (ha : ¬ Publishes m a) : (m.act a).center = m.center := by
  cases act_effect h a with
  | applied hs _ _ _ => exact absurd (.applied ((apply_eq_ok_iff h).2 hs)) ha
  | @cleared path hc _ =>
    cases ho : m.center.overrides.find? path with
    | none => simp [act, command, clear, Center.clear_eq_of_not_held m.agenda.now ho]
    | some o =>
      obtain ⟨c, hclear, -⟩ := Center.clear_eq_of_held h m.agenda.now ho
      exact absurd (.cleared (by simp [clear, hclear])) ha
  | reloaded hb _ _ => exact absurd (.reloaded ((reload_eq_ok_iff h).2 ⟨_, hb⟩)) ha
  | slept _ hc _ => exact hc
  | @expired path rest _ hr _ _ =>
    rw [act_turn hr]
    cases ho : m.center.overrides.find? path with
    | none => simp [turn, Center.expire, Overrides.expire, ho]
    | some o =>
      cases hd : o.isLive m.agenda.now with
      | true => simp [turn, Center.expire, Overrides.expire, ho, hd]
      | false => exact absurd (.expired hr ho hd) ha
  | outrun _ _ hc _ => exact hc
  | passed _ _ hc _ => exact hc
  | idle _ _ _ hc _ => exact hc

end Machine

section History

variable (base : Snapshot) (source : Option Options) (w : Surroundings)

/-- The revision in force is as many above the first one as were published since, up to the greatest. -/
theorem after_revision (acts : List Act) :
    let m := after base source w acts
    m.center.revision = m.center.snapshot.rev ∧
      m.center.revision.toNat = min (base.rev.toNat + m.center.published) Center.lastRevision := by
  induction acts using List.reverseRecOn with
  | nil =>
    have hbase : base.rev.toNat < UInt64.size := base.rev.toNat_lt
    refine ⟨rfl, ?_⟩
    show base.rev.toNat = min (base.rev.toNat + 0) Center.lastRevision
    unfold Center.lastRevision
    omega
  | append_singleton acts a ih =>
    have hsound := (after_inv base source w acts).sound
    rw [after_snoc]
    by_cases ha : (after base source w acts).Publishes a
    · have hannounced := Machine.act_announced hsound ha
      refine ⟨hannounced.rev.symm, ?_⟩
      rw [hannounced.revision, hannounced.published, Center.toNat_nextRevision, ih.2]
      omega
    · simp only [Machine.act_silent hsound ha]
      exact ih

theorem published_le (acts more : List Act) :
    (after base source w acts).center.published ≤ (after base source w (acts ++ more)).center.published := by
  induction more using List.reverseRecOn with
  | nil => rw [List.append_nil]
  | append_singleton more a ih =>
    have hsound := (after_inv base source w (acts ++ more)).sound
    rw [← List.append_assoc, after_snoc]
    by_cases ha : (after base source w (acts ++ more)).Publishes a
    · have hannounced := Machine.act_announced hsound ha
      have := hannounced.published
      omega
    · rw [Machine.act_silent hsound ha]
      exact ih

/-- What is read later is of no lower revision. -/
theorem watched_rev_le (acts more : List Act) :
    (after base source w acts).center.watched.rev ≤ (after base source w (acts ++ more)).center.watched.rev := by
  have hpublished := published_le base source w acts more
  obtain ⟨hrev, hnat⟩ := after_revision base source w acts
  obtain ⟨hrev', hnat'⟩ := after_revision base source w (acts ++ more)
  rw [(after_inv base source w acts).sound.watched, (after_inv base source w (acts ++ more)).sound.watched, ← hrev, ← hrev',
    UInt64.le_iff_toNat_le, hnat, hnat']
  omega

/-- **Every change is published once, at the next revision.** Whatever revision a center starts at, in every play, and so at
every moment of every run: an override applied, one taken back, a base loaded anew and an override expired each publish one
policy, at the revision after the one that was watched before, or at the greatest one again; nothing else changes anything.
So the revision is as many above the first as were published, however often the base was loaded anew. Who watches, and every
gate that goes by the center, has the policy in force; and whoever reads at one moment after the other never reads a lower
revision. -/
theorem one_revision_per_publication :
    (∀ ops, ∃ acts, (Machine.ofCenter (.build base source) w).run ops = after base source w acts ∧
      acts.filterMap Act.command? = ops.filterMap Op.command?) ∧
    (∀ acts a, let m := after base source w acts
      let m' := after base source w (acts ++ [a])
      (m.Publishes a → m'.center.published = m.center.published + 1 ∧
        m'.center.watched.rev.toNat = min (m.center.watched.rev.toNat + 1) (2 ^ 64 - 1)) ∧
      (¬ m.Publishes a → m'.center = m.center)) ∧
    (∀ acts, let m := after base source w acts
      m.center.watched.rev.toNat = min (base.rev.toNat + m.center.published) (2 ^ 64 - 1) ∧
      m.center.watched = m.center.snapshot ∧ Pipeline.Gate.live.policy m.center = m.center.snapshot) ∧
    (∀ moments : List (List Act), moments.Pairwise (· <+: ·) →
      (moments.map fun acts => (after base source w acts).center.watched.rev).Pairwise (· ≤ ·)) := by
  have hwatched : ∀ acts, (after base source w acts).center.watched = (after base source w acts).center.snapshot :=
    fun acts => (after_inv base source w acts).sound.watched
  have hrev : ∀ acts, (after base source w acts).center.watched.rev = (after base source w acts).center.revision := by
    intro acts
    rw [hwatched, (after_revision base source w acts).1]
  refine ⟨Machine.run_eq_play _, fun acts a => ⟨fun ha => ?_, fun ha => ?_⟩, fun acts => ⟨?_, hwatched acts, hwatched acts⟩,
    fun moments hmoments => ?_⟩
  · have hannounced := Machine.act_announced (after_inv base source w acts).sound ha
    rw [← after_snoc] at hannounced
    refine ⟨hannounced.published, ?_⟩
    rw [hrev, hrev, hannounced.revision]
    exact Center.toNat_nextRevision _
  · rw [after_snoc]
    exact Machine.act_silent (after_inv base source w acts).sound ha
  · rw [hrev]
    exact (after_revision base source w acts).2
  · rw [List.pairwise_map]
    refine hmoments.imp fun {acts acts'} hprefix => ?_
    obtain ⟨more, rfl⟩ := hprefix
    exact watched_rev_le base source w acts more

end History

/-- a base at the greatest revision but one -/
def highBase : Snapshot := { Snapshot.start with rev := 18446744073709551614 }

/-- two overrides that expire together: the first timer publishes for both, and the second finds nothing to do -/
def expiringTogether : List Act :=
  [.command (.apply ⟨"ads.enabled", .bool false, "ops", "stop", 1⟩),
    .command (.apply ⟨"hosts.allowed", .text "a.example", "ops", "move", 1⟩),
    .beat .turn, .beat .turn, .beat (.moveTo 1000), .beat .turn]

theorem one_revision_per_publication_at_the_top :
    let m := after highBase none ⟨fun _ => .missing, []⟩ expiringTogether
    let m' := after highBase none ⟨fun _ => .missing, []⟩ (expiringTogether ++ [.beat .turn])
    m.center.published = 3 ∧ m.center.watched.rev.toNat = 2 ^ 64 - 1 ∧ m.agenda.ready = [.due "hosts.allowed"] ∧
      m'.center = m.center := by
  intro m m'
  obtain ⟨-, hstep, hrev, -⟩ := one_revision_per_publication highBase none ⟨fun _ => .missing, []⟩
  have hpublished : m.center.published = 3 := by decide +kernel
  have hready : m.agenda.ready = [.due "hosts.allowed"] := by decide +kernel
  have hnone : (m.center.overrides.find? "hosts.allowed").isSome = false := by decide +kernel
  refine ⟨hpublished, ?_, hready, ?_⟩
  · rw [(hrev expiringTogether).1, hpublished]
    decide
  · refine (hstep expiringTogether (.beat .turn)).2 ?_
    rintro (_ | _ | _ | ⟨hr, ho, -⟩)
    cases hready.symm.trans hr
    rw [ho] at hnone
    cases hnone

end AdConfirm.Policy
