import AdConfirm.Proofs.History
import AdConfirm.Proofs.Pipeline.Line
import AdConfirm.Proofs.Tab.Run

/-!
Ingestion attempts, as the history of a pipeline tells of them.

An attempt begins, and it is decided then whether it may ask for its page. If it may, it asks for the page when its task runs,
and the page comes after some time, or when it is let go, or never. The attempt ends with the page or without it.

- `Began`, `AskedAt`, `LetGo`, `Came`, `Done`: what the history says of an attempt.
- `Ends`: how an attempt may end, and with which ads.
- `Lawful`: a history in which every attempt asks only if it may, and ends as it should.
- `Began.unique`, `AskedAt.unique`: attempts begin and ask once, if they do.
- `Lawful.asked_iff`: in a lawful history, the attempts that asked are those that were allowed when they began.
-/

namespace AdConfirm.Pipeline

open AdConfirm.Tab (Ticket Waiting)

/-- when a page comes that is asked for: after some time, when it is let go, or never -/
inductive Promise where
  | within (ms : Nat)
  | onRelease
  | never
  deriving DecidableEq

/-- when the page of a tab comes if it is asked for now -/
def Source.promise (s : Source) (tab : String) : Promise :=
  match s.delay tab with
  | .none => .within 0
  | .after ms => .within ms
  | .held => if s.permits.contains tab then .within 0 else .onRelease
  | .endless => .never

/-- whether an attempt that begins now may ask for its page -/
def mayAsk (x : Setup) (p : Pipeline) (url : Url) (trigger : Bool) : Bool :=
  trigger && (x.gate.reports p.center && x.gate.confirms p.center && (x.gate.policy p.center).allows url)

def Event.isBegin : Event → Bool
  | .begin _ _ _ => true
  | _ => false

/-- the attempt that an event goes on with -/
def Event.attempt? : Event → Option Ticket
  | .ask t | .arrive t _ | .finish t _ => some t
  | _ => none

/-! ## What the history says -/

section History

variable (x : Setup) (p₀ : Pipeline) (es : List Event) (t : Ticket)

/-- the attempt began, and was allowed to ask for its page then, or not -/
def Began (isAllowed : Bool) : Prop :=
  Ever (fun before e => ∃ url trigger, e = .begin t.tab url trigger ∧ ((play x p₀ before).sessions.begin t.tab).2 = t ∧
    mayAsk x (play x p₀ before) url trigger = isAllowed) es

/-- the attempt asked for its page at this time, and got this promise -/
def AskedAt (since : Nat) (promise : Promise) : Prop :=
  Ever (fun before e => e = .ask t ∧ (play x p₀ before).agenda.now = since ∧
    (play x p₀ before).source.promise t.tab = promise) es

/-- the page that the attempt waited for was let go at this time -/
def LetGo (time : Nat) : Prop :=
  Ever (fun before e => e = .release t.tab ∧ ((play x p₀ before).source.release t.tab).2 = some t ∧
    (play x p₀ before).agenda.now = time) es

/-- the page that the attempt asked for comes at this time -/
def Came (since : Nat) : Promise → Nat → Prop
  | .within ms, time => time = since + ms
  | .onRelease, time => LetGo x p₀ es t time
  | .never, _ => False

/-- the attempt has ended -/
def Done : Prop := ∃ ads, .finish t ads ∈ es

/-- how an attempt may end now, and with which ads: it was not allowed to ask and did not; or the page that it asked for has
come just now, not after the limit; or the limit is reached and the page has not come -/
inductive Ends : AdMap → Prop where
  | gatedOff (began : Began x p₀ es t false) (unasked : .ask t ∉ es) : Ends Table.empty
  | arrived {since time : Nat} {promise : Promise} (asked : AskedAt x p₀ es t since promise)
      (came : Came x p₀ es t since promise time) (inTime : time ≤ since + x.fetchLimit)
      (now : (play x p₀ es).agenda.now = time) : Ends (adsOfPage ((play x p₀ es).source.page? t.tab))
  | cutOff {since : Nat} {promise : Promise} (asked : AskedAt x p₀ es t since promise)
      (missing : ∀ time, Came x p₀ es t since promise time → since + x.fetchLimit < time)
      (now : (play x p₀ es).agenda.now = since + x.fetchLimit) : Ends Table.empty

end History

section Laws

variable (x : Setup) (p₀ : Pipeline)

/-- an event may happen after a history: an attempt asks once, if it is allowed, and ends once -/
def Fits (before : List Event) : Event → Prop
  | .ask t => Began x p₀ before t true ∧ .ask t ∉ before ∧ ¬ Done before t
  | .finish t ads => ¬ Done before t ∧ Ends x p₀ before t ads
  | _ => True

/-- every event of the history may happen after those before it -/
def Lawful (es : List Event) : Prop := Always (Fits x p₀) es

end Laws

variable {x : Setup} {p₀ p : Pipeline} {es fs : List Event} {t : Ticket} {e : Event}

/-! ## Attempts are numbered -/

theorem take_attempts (s : Tab.Sessions) (tab id : String) : (s.take tab id).1.attempts = s.attempts :=
  s.step_attempts (.take tab id)

theorem answer_fold_attempts (isReporting : Bool) (tab : String) (ws : List Waiting) (p : Pipeline) :
    (ws.foldl (answer isReporting tab) p).sessions.attempts = p.sessions.attempts := by
  induction ws generalizing p with
  | nil => rfl
  | cons w ws ih =>
    rw [List.foldl_cons, ih]
    cases isReporting with
    | false => rfl
    | true => exact (congrArg Tab.Sessions.attempts (p.resolve_sessions tab w.ad)).trans (take_attempts _ tab w.ad)

theorem finish_attempts (x : Setup) (p : Pipeline) (t : Ticket) (ads : AdMap) :
    (finish x p t ads).sessions.attempts = p.sessions.attempts := by
  have hcomplete : (p.sessions.complete t ads).1.attempts = p.sessions.attempts := p.sessions.step_attempts (.complete t ads)
  cases hcurrent : p.sessions.isCurrent t with
  | false =>
    rw [finish_late ads hcurrent]
    exact hcomplete
  | true =>
    rw [finish_eq ads hcurrent]
    refine Eq.trans ?_ hcomplete
    simp only [fireHooks, answerAll]
    split_ifs
    · rfl
    · rw [adopt_sessions, answer_fold_attempts]
      rfl

/-- Attempts are counted when they begin. -/
theorem perform_attempts (x : Setup) (p : Pipeline) (e : Event) :
    (perform x p e).sessions.attempts = p.sessions.attempts + e.isBegin.toNat := by
  cases htouch : e.touchesTabs with
  | false =>
    have hbegin : e.isBegin = false := by cases e <;> first | rfl | cases htouch
    rw [perform_sessions htouch, hbegin]
    rfl
  | true =>
    cases e with
    | begin tab url trigger =>
      rw [perform, begin_sessions]
      rfl
    | finish t ads => exact finish_attempts x p t ads
    | request tab id =>
      refine Eq.trans ?_ (Nat.add_zero _).symm
      cases hr : x.gate.reports p.center with
      | false =>
        simp only [perform, request_unreported x p tab id hr]
        rfl
      | true =>
        cases ha : (p.sessions.slot tab).ads with
        | none =>
          simp only [perform, request_waits x p id hr ha]
          exact p.sessions.step_attempts (.park tab ⟨p.requests.length, id⟩)
        | some ads =>
          simp only [perform, request_ready x p id hr (by rw [ha]; rfl), resolve_sessions]
          exact take_attempts _ tab id
    | resolve tab id =>
      simp only [perform, resolve_sessions]
      exact take_attempts _ tab id
    | reset tab =>
      rw [perform, reset_sessions]
      exact p.sessions.step_attempts (.reset tab)
    | _ => cases htouch

theorem attempts_le (p : Pipeline) (es : List Event) : p.sessions.attempts ≤ (play x p es).sessions.attempts := by
  induction es generalizing p with
  | nil => exact le_rfl
  | cons e es ih =>
    have hperform := perform_attempts x p e
    exact le_trans (by omega) (ih (perform x p e))

/-! ## What stays in the history -/

theorem ever_append {happens : List Event → Event → Prop} (h : Ever happens es) (fs : List Event) :
    Ever happens (es ++ fs) := by
  obtain ⟨before, e, after, rfl, he⟩ := h
  exact ⟨before, e, after ++ fs, by simp, he⟩

theorem Began.append {ok : Bool} (h : Began x p₀ es t ok) (fs : List Event) : Began x p₀ (es ++ fs) t ok := ever_append h fs

theorem AskedAt.append {since : Nat} {promise : Promise} (h : AskedAt x p₀ es t since promise) (fs : List Event) :
    AskedAt x p₀ (es ++ fs) t since promise := ever_append h fs

theorem LetGo.append {time : Nat} (h : LetGo x p₀ es t time) (fs : List Event) : LetGo x p₀ (es ++ fs) t time :=
  ever_append h fs

theorem AskedAt.mem {since : Nat} {promise : Promise} (h : AskedAt x p₀ es t since promise) : .ask t ∈ es := by
  obtain ⟨before, e, after, rfl, rfl, -⟩ := h
  exact List.mem_append_right _ List.mem_cons_self

theorem letGo_snoc {time : Nat} :
    LetGo x p₀ (es ++ [e]) t time ↔
      (e = .release t.tab ∧ ((play x p₀ es).source.release t.tab).2 = some t ∧ (play x p₀ es).agenda.now = time) ∨
        LetGo x p₀ es t time := ever_snoc

theorem done_snoc : Done (es ++ [e]) t ↔ Done es t ∨ ∃ ads, e = .finish t ads := by
  simp only [Done, List.mem_append, List.mem_singleton, exists_or, eq_comm (b := e)]

/-- Only the end of an attempt ends it. -/
theorem not_done_snoc (h : ¬ Done es t) (he : ∀ ads, e ≠ .finish t ads) : ¬ Done (es ++ [e]) t := by
  intro hdone
  rcases done_snoc.1 hdone with hdone | ⟨ads, hads⟩
  · exact h hdone
  · exact he ads hads

theorem not_asked_snoc (h : .ask t ∉ es) (he : e ≠ .ask t) : .ask t ∉ es ++ [e] := by
  intro hask
  rcases List.mem_append.1 hask with hask | hask
  · exact h hask
  · exact he (List.mem_singleton.1 hask).symm

/-- What goes on with no attempt ends none, and asks for no page. -/
theorem ne_finish_of_attempt? (he : e.attempt? ≠ some t) (ads : AdMap) : e ≠ .finish t ads := by
  rintro rfl
  exact he rfl

theorem ne_ask_of_attempt? (he : e.attempt? ≠ some t) : e ≠ .ask t := by
  rintro rfl
  exact he rfl

/-! ## Attempts begin and ask once -/

/-- Two points of a history where attempts with the same number begin are the same point. -/
theorem begin_point_unique {before before' after after' : List Event} {e e' : Event}
    (heq : before ++ e :: after = before' ++ e' :: after') (he : e.isBegin = true) (he' : e'.isBegin = true)
    (hn : (play x p₀ before).sessions.attempts = (play x p₀ before').sessions.attempts) : before = before' ∧ e = e' := by
  set n := (play x p₀ before).sessions.attempts with hnumber
  have first : ∀ {before e after}, before ++ e :: after = before' ++ e' :: after' → e.isBegin = true →
      (play x p₀ before).sessions.attempts = n →
      First (fun before e => e.isBegin = true ∧ (play x p₀ before).sessions.attempts = n) (before' ++ e' :: after')
        before e after := by
    intro before e after hsplit hbegin hattempts
    refine ⟨hsplit.symm, ⟨hbegin, hattempts⟩, ?_⟩
    rintro ⟨mid, b, rest, rfl, hb, hmid⟩
    -- the attempt before would have taken the number
    have hperform := perform_attempts x (play x p₀ mid) b
    have hle := attempts_le (x := x) (perform x (play x p₀ mid) b) rest
    rw [play_append, play_cons] at hattempts
    rw [hb] at hperform
    simp only [Bool.toNat_true] at hperform
    omega
  obtain ⟨hbefore, hevent, -⟩ := (first heq he rfl).unique (first rfl he' hn.symm)
  exact ⟨hbefore, hevent⟩

/-- An attempt begins once. -/
theorem Began.unique {ok ok' : Bool} (h : Began x p₀ es t ok) (h' : Began x p₀ es t ok') : ok = ok' := by
  obtain ⟨before, e, after, rfl, url, trigger, rfl, ht, hok⟩ := h
  obtain ⟨before', e', after', heq, url', trigger', rfl, ht', hok'⟩ := h'
  have hnumber : (play x p₀ before).sessions.attempts + 1 = (play x p₀ before').sessions.attempts + 1 :=
    (congrArg Ticket.attempt ht).trans (congrArg Ticket.attempt ht').symm
  obtain ⟨rfl, hevent⟩ := begin_point_unique heq rfl rfl (Nat.succ.inj hnumber)
  cases hevent
  exact hok.symm.trans hok'

/-- The number of an attempt that began has been counted. -/
theorem Began.attempt_le {ok : Bool} (h : Began x p₀ es t ok) : t.attempt ≤ (play x p₀ es).sessions.attempts := by
  obtain ⟨before, e, after, rfl, url, trigger, rfl, ht, -⟩ := h
  have hnumber : (play x p₀ before).sessions.attempts + 1 = t.attempt := congrArg Ticket.attempt ht
  have hperform := perform_attempts x (play x p₀ before) (.begin t.tab url trigger)
  have hle := attempts_le (x := x) (perform x (play x p₀ before) (.begin t.tab url trigger)) after
  rw [play_append, play_cons]
  simp only [Event.isBegin, Bool.toNat_true] at hperform
  omega

/-! ## Lawful histories -/

theorem lawful_nil : Lawful x p₀ [] := always_nil

theorem lawful_snoc : Lawful x p₀ (es ++ [e]) ↔ Lawful x p₀ es ∧ Fits x p₀ es e := always_snoc

namespace Lawful

theorem began_of_ask (h : Lawful x p₀ es) (ht : .ask t ∈ es) : Began x p₀ es t true := by
  obtain ⟨before, after, rfl⟩ := List.append_of_mem ht
  exact (h before _ after rfl).1.append _

theorem began_of_done (h : Lawful x p₀ es) (ht : Done es t) : ∃ ok, Began x p₀ es t ok := by
  obtain ⟨ads, hads⟩ := ht
  obtain ⟨before, after, rfl⟩ := List.append_of_mem hads
  obtain ⟨-, hends⟩ := h before _ after rfl
  cases hends with
  | gatedOff began => exact ⟨false, began.append _⟩
  | arrived asked => exact ⟨true, h.began_of_ask (List.mem_append_left _ asked.mem)⟩
  | cutOff asked => exact ⟨true, h.began_of_ask (List.mem_append_left _ asked.mem)⟩

/-- An attempt asks for its page once. -/
theorem askedAt_unique (h : Lawful x p₀ es) {since since' : Nat} {promise promise' : Promise}
    (ha : AskedAt x p₀ es t since promise) (ha' : AskedAt x p₀ es t since' promise') : since = since' ∧ promise = promise' := by
  have first : ∀ {before after}, es = before ++ .ask t :: after → First (fun _ e => e = .ask t) es before (.ask t) after := by
    rintro before after rfl
    refine ⟨rfl, rfl, ?_⟩
    rintro ⟨mid, b, rest, rfl, rfl⟩
    exact (h _ _ after rfl).2.1 (by simp)
  obtain ⟨before, e, after, heq, rfl, hsince, hpromise⟩ := ha
  obtain ⟨before', e', after', heq', rfl, hsince', hpromise'⟩ := ha'
  obtain ⟨rfl, -, -⟩ := (first heq).unique (first heq')
  exact ⟨hsince.symm.trans hsince', hpromise.symm.trans hpromise'⟩

/-- **The attempts that asked are those that were allowed when they began**, of all whose task has run. -/
theorem asked_iff (h : Lawful x p₀ es) (ran : .ask t ∈ es ∨ Done es t) {ok : Bool} (began : Began x p₀ es t ok) :
    .ask t ∈ es ↔ ok = true := by
  constructor
  · intro ht
    exact began.unique (h.began_of_ask ht)
  · rintro rfl
    rcases ran with ht | ⟨ads, hads⟩
    · exact ht
    · obtain ⟨before, after, rfl⟩ := List.append_of_mem hads
      obtain ⟨-, hends⟩ := h before _ after rfl
      cases hends with
      | gatedOff hbegan => exact absurd ((hbegan.append _).unique began) Bool.false_ne_true
      | arrived asked => exact List.mem_append_left _ asked.mem
      | cutOff asked => exact List.mem_append_left _ asked.mem

end Lawful

end AdConfirm.Pipeline
