import AdConfirm.Ad.Sample
import AdConfirm.Proofs.Pipeline.Line

/-!
What becomes of a request.

A request that cannot be answered at once waits, and `verdict` is what becomes of it: of all events after it, the first
accepted completion of its tab, the first reset of its tab or its maker giving up settles it, and nothing else does.

- `Inv`, `play_inv`: whoever stands in a line asked for it and is not answered yet, and every request that waits stands in
  a line.
- `play_settled`: an answer once given stays.
- `request_settles`: the whole story of a request, in every play of events and so in every run.
-/

namespace AdConfirm.Pipeline

open AdConfirm.Tab (Ticket Waiting)

def asked (es : List Event) : List (String × String) := es.filterMap Event.asks?

/-- what an event means to a waiting request for an ad of a tab; a rival is one that asked for the same ad and stands before
it in the line, even if its maker gave up -/
def outcome? (x : Setup) (p : Pipeline) (tab id : String) (key : Nat) (hasRival : Bool) : Event → Option Answer
  | .finish t ads =>
    match (p.sessions.complete t ads).2 with
    | .error _ => none
    | .ok _ => if t.tab = tab then some (.decided (x.gate.reports p.center && ads.contains id && !hasRival)) else none
  | .reset j => if j = tab then some (.abandoned tab) else none
  | .forget k => if k = key then some .forgotten else none
  | _ => none

/-- what becomes of a waiting request: the first event that means something to it settles it -/
def verdict (x : Setup) (tab id : String) (key : Nat) (hasRival : Bool) : Pipeline → List Event → Answer
  | _, [] => .waiting
  | p, e :: es => (outcome? x p tab id key hasRival e).getD (verdict x tab id key hasRival (perform x p e) es)

variable {x : Setup} {p q : Pipeline} {e : Event} {es : List Event}

/-! ## An answer once given stays -/

theorem perform_settled {key : Nat} {a : Answer} (h : p.requests[key]? = some a) (ha : a ≠ .waiting) :
    (perform x p e).requests[key]? = some a := by
  have hlt : key < p.requests.length := (List.getElem?_eq_some_iff.1 h).1
  have hne : p.requests[key]? ≠ some .waiting := by simpa [h] using ha
  cases perform_change x p e with
  | answered b requests lines => rw [requests, List.getElem?_append_left hlt, h]
  | parked requests lines => rw [requests, List.getElem?_append_left hlt, h]
  | forgotten requests lines => rw [requests, settled_of_ne hne, h]
  | completed accepted requests lines => rw [requests, settled_of_ne hne, h]
  | reset requests lines => rw [requests, settled_of_ne hne, h]
  | aside isAside requests lines => rw [requests, h]

theorem play_settled {key : Nat} {a : Answer} (h : p.requests[key]? = some a) (ha : a ≠ .waiting) (es : List Event) :
    (play x p es).requests[key]? = some a := by
  induction es generalizing p with
  | nil => exact h
  | cons e es ih => exact ih (perform_settled h ha)

/-! ## Lines and requests -/

/-- who stands in a line asked for an ad of its tab and was not answered, and every request that waits stands in a line -/
structure Inv (es : List Event) (p : Pipeline) : Prop where
  count : p.requests.length = (asked es).length
  origin : ∀ tab, ∀ w ∈ p.line tab, (asked es)[w.key]? = some (tab, w.ad)
  unsettled : ∀ tab, ∀ w ∈ p.line tab, p.requests[w.key]? = some .waiting ∨ p.requests[w.key]? = some .forgotten
  parked : ∀ key, p.requests[key]? = some .waiting → ∃ tab, ∃ w ∈ p.line tab, w.key = key
  arrival : ∀ tab, (p.line tab).Pairwise fun v w => v.key < w.key

theorem asked_append (es fs : List Event) : asked (es ++ fs) = asked es ++ asked fs := List.filterMap_append

theorem asked_snoc (es : List Event) (e : Event) : asked (es ++ [e]) = asked es ++ e.asks?.toList := by
  rw [asked_append]
  cases h : e.asks? <;> simp [asked, h]

theorem asks?_of_isAside (h : e.isAside p = true) : e.asks? = none := by
  cases e <;> first | rfl | simp [Event.isAside] at h

theorem outcome?_of_isAside (h : e.isAside p = true) (tab id : String) (key : Nat) (hasRival : Bool) :
    outcome? x p tab id key hasRival e = none := by
  cases e with
  | finish t ads =>
    have hc : p.sessions.isCurrent t = false := by simpa [Event.isAside] using h
    have hr := p.sessions.complete_result t ads
    simp only [hc, Bool.false_eq_true, if_false] at hr
    simp only [outcome?, hr]
  | _ => first | rfl | simp [Event.isAside] at h

theorem outcome?_accepted {t : Ticket} {ads : AdMap} {tab id : String} {key : Nat} {hasRival : Bool}
    (h : p.sessions.isCurrent t = true) :
    outcome? x p tab id key hasRival (.finish t ads) =
      if t.tab = tab then some (.decided (x.gate.reports p.center && ads.contains id && !hasRival)) else none := by
  have hr := p.sessions.complete_result t ads
  rw [if_pos h] at hr
  simp only [outcome?, hr]

theorem inv_start (c : Policy.Center) (capacity : Option Nat) : Inv [] (start c capacity) := by
  have hs : (start c capacity).sessions = .empty := by
    unfold start
    split_ifs <;> rfl
  have hr : (start c capacity).requests = [] := by
    unfold start
    split_ifs <;> rfl
  have hl : ∀ tab, (start c capacity).line tab = [] := fun tab => by
    rw [line, hs]
    rfl
  exact ⟨by rw [hr]; rfl, by simp [hl], by simp [hl], by simp [hr], by simp [hl]⟩

/-- what is in a list stays at its place when others are appended -/
theorem getElem?_append_of_eq_some {α : Type} {l : List α} {i : Nat} {a : α} (h : l[i]? = some a) (m : List α) :
    (l ++ m)[i]? = some a := by
  rw [List.getElem?_append_left (List.getElem?_eq_some_iff.1 h).1, h]

namespace Inv

/-- an event that makes no request leaves what was asked as it is -/
theorem silent (he : e.asks? = none) (h : Inv es p) : Inv (es ++ [e]) p := by
  have ha : asked (es ++ [e]) = asked es := by simp [asked_snoc, he]
  exact ⟨ha ▸ h.count, ha ▸ h.origin, h.unsettled, h.parked, h.arrival⟩

theorem key_lt (h : Inv es p) {tab : String} {w : Waiting} (hw : w ∈ p.line tab) : w.key < p.requests.length := by
  rw [h.count]
  exact (List.getElem?_eq_some_iff.1 (h.origin tab w hw)).1

/-- nobody stands in two lines -/
theorem tab_eq (h : Inv es p) {tab j : String} {v w : Waiting} (hv : v ∈ p.line tab) (hw : w ∈ p.line j)
    (hk : v.key = w.key) : tab = j := by
  have ho := h.origin tab v hv
  rw [hk, h.origin j w hw] at ho
  exact (Prod.mk.inj (Option.some.inj ho)).1.symm

/-- Settling requests keeps the invariant if who leaves a line is answered, and who stays has given up at most. -/
theorem settle (h : Inv es p) {as : List (Nat × Answer)} (requests : q.requests = settled p.requests as)
    (final : ∀ a ∈ as, a.2 ≠ .waiting) (sub : ∀ j, (q.line j).Sublist (p.line j))
    (stays : ∀ j, ∀ w ∈ q.line j, as.lookup w.key = none ∨ as.lookup w.key = some .forgotten)
    (leaves : ∀ j, ∀ w ∈ p.line j, w ∉ q.line j → ∃ a, as.lookup w.key = some a) : Inv es q where
  count := by rw [requests, settled_length, h.count]
  origin j w hw := h.origin j w ((sub j).subset hw)
  unsettled j w hw := by
    rw [requests]
    rcases h.unsettled j w ((sub j).subset hw) with ho | ho
    · rw [settled_of_waiting ho final]
      rcases stays j w hw with hs | hs <;> simp [hs]
    · rw [settled_of_ne (by simp [ho]), ho]
      exact .inr rfl
  parked key hk := by
    rw [requests] at hk
    have ho : p.requests[key]? = some .waiting := by
      by_contra hn
      rw [settled_of_ne hn] at hk
      exact hn hk
    obtain ⟨j, w, hw, rfl⟩ := h.parked key ho
    refine ⟨j, w, ?_, rfl⟩
    by_contra hn
    obtain ⟨a, ha⟩ := leaves j w hw hn
    rw [settled_of_waiting ho final, ha] at hk
    obtain ⟨l, m, rfl, -⟩ := List.lookup_eq_some_iff.1 ha
    exact final _ (List.mem_append_right l List.mem_cons_self) (by simpa using hk)
  arrival j := (h.arrival j).sublist (sub j)

/-- who stands in another line is not answered with those of a tab -/
theorem lookup_none (h : Inv es p) {tab j : String} {as : List (Nat × Answer)} {w : Waiting}
    (keys : as.map Prod.fst = (p.line tab).map (·.key)) (hw : w ∈ p.line j) (hj : j ≠ tab) : as.lookup w.key = none := by
  rw [List.lookup_eq_none_iff]
  intro a ha
  obtain ⟨v, hv, hk⟩ := List.mem_map.1 (keys ▸ List.mem_map_of_mem (f := Prod.fst) ha)
  simp only [bne_iff_ne]
  intro he
  exact hj (h.tab_eq hw hv (he.trans hk.symm))

/-- Clearing the line of a tab keeps the invariant if all who stood in it are answered, and nobody else. -/
theorem clear (h : Inv es p) {tab : String} {as : List (Nat × Answer)} (requests : q.requests = settled p.requests as)
    (keys : as.map Prod.fst = (p.line tab).map (·.key)) (final : ∀ a ∈ as, a.2 ≠ .waiting)
    (lines : ∀ j, q.line j = if tab = j then [] else p.line j) : Inv es q := by
  refine h.settle requests final (fun j => ?_) (fun j w hw => ?_) fun j w hw hn => ?_
  · rw [lines]
    split_ifs
    · exact List.nil_sublist _
    · exact List.Sublist.refl _
  · rw [lines] at hw
    split_ifs at hw with hj
    · exact absurd hw List.not_mem_nil
    · exact .inl (h.lookup_none keys hw (Ne.symm hj))
  · rw [lines] at hn
    split_ifs at hn with hj
    · subst hj
      obtain ⟨a, ha, hk⟩ := List.mem_map.1 (keys ▸ List.mem_map_of_mem (f := Waiting.key) hw)
      refine Option.isSome_iff_exists.1 (List.lookup_isSome_iff.2 ⟨a, ha, ?_⟩)
      simp [hk]
    · exact absurd hw hn

/-- a request that is answered at once joins no line -/
theorem answer (h : Inv es p) {tab id : String} {b : Bool} (requests : q.requests = p.requests ++ [.decided b])
    (lines : ∀ j, q.line j = p.line j) : Inv (es ++ [.request tab id]) q where
  count := by simp [requests, asked_snoc, Event.asks?, h.count]
  origin j w hw := by
    rw [asked_snoc]
    exact getElem?_append_of_eq_some (h.origin j w (lines j ▸ hw)) _
  unsettled j w hw := by
    rw [requests]
    exact (h.unsettled j w (lines j ▸ hw)).imp (getElem?_append_of_eq_some · _) (getElem?_append_of_eq_some · _)
  parked key hk := by
    rw [requests, List.getElem?_append] at hk
    split_ifs at hk with hlt
    · obtain ⟨j, w, hw, rfl⟩ := h.parked key hk
      exact ⟨j, w, (lines j).symm ▸ hw, rfl⟩
    · simpa using List.mem_of_getElem? hk
  arrival j := lines j ▸ h.arrival j

/-- a request that waits goes to the end of the line of its tab -/
theorem park (h : Inv es p) {tab id : String} (requests : q.requests = p.requests ++ [.waiting])
    (lines : ∀ j, q.line j = if tab = j then p.line j ++ [⟨p.requests.length, id⟩] else p.line j) :
    Inv (es ++ [.request tab id]) q := by
  -- who stands in a line stood there before, or is the new request
  have who : ∀ j, ∀ w ∈ q.line j, w ∈ p.line j ∨ (j = tab ∧ w = ⟨p.requests.length, id⟩) := by
    intro j w hw
    rw [lines] at hw
    split_ifs at hw with hj
    · rcases List.mem_append.1 hw with hw | hw
      · exact .inl hw
      · exact .inr ⟨hj.symm, List.mem_singleton.1 hw⟩
    · exact .inl hw
  refine ⟨?_, fun j w hw => ?_, fun j w hw => ?_, fun key hk => ?_, fun j => ?_⟩
  · simp [requests, asked_snoc, Event.asks?, h.count]
  · rw [asked_snoc]
    rcases who j w hw with hw | ⟨rfl, rfl⟩
    · exact getElem?_append_of_eq_some (h.origin j w hw) _
    · simp [h.count, Event.asks?]
  · rw [requests]
    rcases who j w hw with hw | ⟨-, rfl⟩
    · exact (h.unsettled j w hw).imp (getElem?_append_of_eq_some · _) (getElem?_append_of_eq_some · _)
    · simp
  · rw [requests, List.getElem?_append] at hk
    split_ifs at hk with hlt
    · obtain ⟨j, w, hw, rfl⟩ := h.parked key hk
      refine ⟨j, w, ?_, rfl⟩
      rw [lines]
      split_ifs
      · exact List.mem_append_left _ hw
      · exact hw
    · have hkey : key = p.requests.length := by
        have := (List.getElem?_eq_some_iff.1 hk).1
        simp only [List.length_singleton] at this
        omega
      refine ⟨tab, ⟨p.requests.length, id⟩, ?_, hkey.symm⟩
      rw [lines, if_pos rfl]
      exact List.mem_append_right _ List.mem_cons_self
  · rw [lines]
    split_ifs
    · refine List.pairwise_append.2 ⟨h.arrival j, List.pairwise_singleton _ _, fun v hv w hw => ?_⟩
      rw [List.mem_singleton.1 hw]
      exact h.key_lt hv
    · exact h.arrival j

end Inv

theorem perform_inv (h : Inv es p) (e : Event) : Inv (es ++ [e]) (perform x p e) := by
  cases perform_change x p e with
  | answered b requests lines => exact h.answer requests lines
  | parked requests lines => exact h.park requests lines
  | @forgotten key requests lines =>
    refine Inv.silent rfl (h.settle requests (by simp) (fun j => ?_) (fun j w _ => ?_) fun j w hw hn => ?_)
    · rw [lines]
    · rw [List.lookup_cons]
      cases w.key == key with
      | true => exact .inr rfl
      | false => exact .inl rfl
    · exact absurd hw (lines j ▸ hn)
  | completed accepted requests lines =>
    exact Inv.silent rfl (h.clear requests (answers_keys _ _ _) (answers_final _ _ _) lines)
  | reset requests lines =>
    exact Inv.silent rfl (h.clear requests (abandons_keys _ _) (abandons_final _ _) lines)
  | aside isAside requests lines =>
    have hs : (perform x p e).requests = settled p.requests [] := requests
    refine Inv.silent (asks?_of_isAside isAside) (h.settle hs (by simp) (fun j => ?_) (fun _ _ _ => .inl rfl) ?_)
    · rw [lines]
    · exact fun j w hw hn => absurd hw (lines j ▸ hn)

theorem play_inv (h : Inv es p) (fs : List Event) : Inv (es ++ fs) (play x p fs) := by
  induction fs generalizing es p with
  | nil => simpa [play] using h
  | cons e fs ih =>
    have hi := ih (perform_inv (x := x) h e)
    rwa [List.append_assoc] at hi

/-! ## What settles a request -/

/-- a request still waits, in its place in the line of its tab -/
structure Waits (p : Pipeline) (tab id : String) (key : Nat) (hasRival : Bool) : Prop where
  waiting : p.requests[key]? = some .waiting
  place : ∃ earlier later, p.line tab = earlier ++ ⟨key, id⟩ :: later ∧ earlier.any (·.ad = id) = hasRival

namespace Waits

variable {tab id : String} {key : Nat} {hasRival : Bool}

theorem mem_line (h : Waits p tab id key hasRival) : (⟨key, id⟩ : Waiting) ∈ p.line tab := by
  obtain ⟨earlier, later, hl, -⟩ := h.place
  simp [hl]

theorem ne_of_earlier (hI : Inv es p) {earlier later : List Waiting}
    (hl : p.line tab = earlier ++ ⟨key, id⟩ :: later) : ∀ v ∈ earlier, v.key ≠ key := by
  intro v hv
  have ha := hI.arrival tab
  rw [hl] at ha
  exact Nat.ne_of_lt ((List.pairwise_append.1 ha).2.2 v hv _ List.mem_cons_self)

/-- a request whose line stays as it is, waits on -/
theorem stay (h : Waits p tab id key hasRival) (requests : q.requests[key]? = p.requests[key]?)
    (lines : q.line tab = p.line tab) : Waits q tab id key hasRival :=
  ⟨requests.trans h.waiting, lines ▸ h.place⟩

/-- Clearing the line of another tab is nothing to a request that waits. -/
theorem stay_clear (h : Waits p tab id key hasRival) (hI : Inv es p) {j : String} {as : List (Nat × Answer)}
    (hj : j ≠ tab) (requests : q.requests = settled p.requests as) (final : ∀ a ∈ as, a.2 ≠ .waiting)
    (keys : as.map Prod.fst = (p.line j).map (·.key)) (lines : ∀ i, q.line i = if j = i then [] else p.line i) :
    Waits q tab id key hasRival := by
  refine h.stay ?_ (by rw [lines, if_neg hj])
  rw [requests, settled_of_waiting h.waiting final, hI.lookup_none keys h.mem_line (Ne.symm hj), h.waiting]
  rfl

/-- One event: either it means nothing to a request, which waits on at its place, or it settles the request. -/
theorem step (h : Waits p tab id key hasRival) (hI : Inv es p) (e : Event) :
    (outcome? x p tab id key hasRival e = none ∧ Waits (perform x p e) tab id key hasRival) ∨
      ∃ a, a ≠ .waiting ∧ outcome? x p tab id key hasRival e = some a ∧ (perform x p e).requests[key]? = some a := by
  have hlt : key < p.requests.length := (List.getElem?_eq_some_iff.1 h.waiting).1
  cases perform_change x p e with
  | answered b requests lines =>
    exact .inl ⟨rfl, h.stay (by rw [requests, List.getElem?_append_left hlt]) (lines tab)⟩
  | @parked j i requests lines =>
    refine .inl ⟨rfl, by rw [requests, List.getElem?_append_left hlt, h.waiting], ?_⟩
    obtain ⟨earlier, later, hl, hr⟩ := h.place
    rw [lines]
    split_ifs
    · exact ⟨earlier, later ++ [⟨p.requests.length, i⟩], by simp [hl], hr⟩
    · exact ⟨earlier, later, hl, hr⟩
  | @forgotten k requests lines =>
    by_cases hk : k = key
    · refine .inr ⟨.forgotten, by simp, by simp [outcome?, hk], ?_⟩
      rw [requests, settled_single, if_pos ⟨hk, h.waiting⟩]
    · refine .inl ⟨by simp [outcome?, hk], h.stay ?_ (lines tab)⟩
      rw [requests, settled_single, if_neg fun hn => hk hn.1]
  | @completed t ads accepted requests lines =>
    rw [outcome?_accepted accepted]
    by_cases ht : t.tab = tab
    · subst ht
      obtain ⟨earlier, later, hl, hr⟩ := h.place
      have hlookup := answers_lookup (x.gate.reports p.center) ads ⟨key, id⟩ later (ne_of_earlier hI hl)
      refine .inr ⟨_, by simp, if_pos rfl, ?_⟩
      rw [requests, settled_of_waiting h.waiting (answers_final _ _ _), hl, hlookup, ← hr]
      rfl
    · exact .inl ⟨if_neg ht, h.stay_clear hI ht requests (answers_final _ _ _) (answers_keys _ _ _) lines⟩
  | @reset j requests lines =>
    by_cases hj : j = tab
    · subst hj
      refine .inr ⟨.abandoned j, by simp, by simp [outcome?], ?_⟩
      rw [requests, settled_of_waiting h.waiting (abandons_final _ _), abandons_lookup h.mem_line]
      rfl
    · refine .inl ⟨by simp [outcome?, hj], ?_⟩
      exact h.stay_clear hI hj requests (abandons_final _ _) (abandons_keys _ _) lines
  | aside isAside requests lines =>
    exact .inl ⟨outcome?_of_isAside isAside _ _ _ _, h.stay (by rw [requests]) (lines tab)⟩

/-- Events settle a waiting request as its verdict says. -/
theorem run (h : Waits p tab id key hasRival) (hI : Inv es p) (fs : List Event) :
    (play x p fs).requests[key]? = some (verdict x tab id key hasRival p fs) := by
  induction fs generalizing es p with
  | nil => exact h.waiting
  | cons e fs ih =>
    rw [play_cons, verdict]
    rcases h.step (x := x) hI e with ⟨ho, hw⟩ | ⟨a, ha, ho, hs⟩
    · rw [ho, ih hw (perform_inv hI e)]
      rfl
    · rw [ho, play_settled hs ha fs]
      rfl

end Waits

/-! ## The whole story of a request -/

variable (x)

/-- **Every request is settled in one way.** Every run is a play of events, and in every play the lines hold exactly the
requests that still wait, in order of arrival. A request made at any moment of it is answered false at once if views are
not reported; else, if the ads of its tab are known, it is answered at once whether its ad is among them, and the ad is
gone; else it waits last in the line of its tab, and its verdict is what becomes of it. An answer once given stays. -/
theorem request_settles (c : Policy.Center) (capacity : Option Nat) :
    (∀ p ops, ∃ es, run x p ops = play x p es ∧ (ops.filterMap Op.event?).Sublist es) ∧
    ∀ before tab id after,
      let p := play x (start c capacity) before
      let key := p.requests.length
      let q := perform x p (.request tab id)
      let r := play x q after
      Inv before p ∧
      (x.gate.reports p.center = false →
        q.requests = p.requests ++ [.decided false] ∧ q.sessions = p.sessions ∧ q.queue = p.queue ∧
          r.requests[key]? = some (.decided false)) ∧
      (∀ ads, x.gate.reports p.center = true → (p.sessions.slot tab).ads = some ads →
        q.requests = p.requests ++ [.decided (ads.contains id)] ∧ (q.sessions.slot tab).ads = some (ads.erase id) ∧
          (∀ j, q.line j = p.line j) ∧ r.requests[key]? = some (.decided (ads.contains id))) ∧
      (x.gate.reports p.center = true → (p.sessions.slot tab).ads = none →
        q.requests = p.requests ++ [.waiting] ∧ q.line tab = p.line tab ++ [⟨key, id⟩] ∧
          r.requests[key]? = some (verdict x tab id key ((p.line tab).any (·.ad = id)) q after)) ∧
      (r.requests[key]? ≠ some .waiting → ∀ later, (play x r later).requests[key]? = r.requests[key]?) := by
  refine ⟨run_eq_play x, fun before tab id after => ?_⟩
  intro p key q r
  have hI : Inv before p := play_inv (inv_start c capacity) before
  refine ⟨hI, fun hr => ?_, fun ads hr ha => ?_, fun hr ha => ?_, fun hw later => ?_⟩
  · have hq : q = { p.note (.unreported tab id) with requests := p.requests ++ [.decided false] } :=
      request_unreported x p tab id hr
    have hs : q.requests = p.requests ++ [.decided false] := by rw [hq]
    exact ⟨hs, by rw [hq]; rfl, by rw [hq]; rfl, play_settled (by simp [hs, key]) (by simp) after⟩
  · have hq : q = { (p.resolve tab id).1 with requests := p.requests ++ [.decided (p.sessions.containsAd tab id)] } :=
      request_ready x p id hr (by rw [ha]; rfl)
    have hc : p.sessions.containsAd tab id = ads.contains id := by simp [Tab.Sessions.containsAd, ha]
    have hs : q.requests = p.requests ++ [.decided (ads.contains id)] := by rw [hq, hc]
    refine ⟨hs, ?_, fun j => (congrArg (line · j) hq).trans (p.resolve_line tab id j), ?_⟩
    · rw [hq]
      simp [resolve_sessions, Tab.Sessions.take_slot, ha]
    · exact play_settled (by simp [hs, key]) (by simp) after
  · obtain ⟨hs, hl⟩ := request_parks x p id hr ha
    have hline : q.line tab = p.line tab ++ [⟨key, id⟩] := (hl tab).trans (if_pos rfl)
    have hw : Waits q tab id key ((p.line tab).any (·.ad = id)) :=
      ⟨by simp [q, perform, hs, key], p.line tab, [], hline, rfl⟩
    exact ⟨hs, hline, hw.run (perform_inv hI _) after⟩
  · have hlt : key < r.requests.length := by
      have hr : r.requests.length = _ := (play_inv (perform_inv hI (.request tab id)) after).count
      rw [asked_append, asked_snoc, List.length_append, List.length_append, ← hI.count] at hr
      exact hr ▸ Nat.lt_add_right _ (Nat.lt_succ_self _)
    have hr : r.requests[key]? = some r.requests[key] := List.getElem?_eq_getElem hlt
    rw [hr]
    exact play_settled hr (fun h => hw (h ▸ hr)) later

/-- an attempt of a tab begins, and ends with one ad -/
def oneAdStored : List Event :=
  [.begin "tab" ⟨"https".toList, [], [], none, none, .segments [], none, none⟩ true,
    .finish ⟨"tab", 1⟩ (Table.empty.insert "ad" (sampleRecord "ad"))]

theorem request_settles_stored :
    (play (.withoutPolicy .live .prompt) (perform (.withoutPolicy .live .prompt) (start (.ofSnapshot .default) none)
      (.request "tab" "ad")) oneAdStored).requests[0]? = some (.decided true) :=
  (((request_settles (.withoutPolicy .live .prompt) (.ofSnapshot .default) none).2 [] "tab" "ad" oneAdStored).2.2.2.1
    (by decide) (by decide)).2.2

end AdConfirm.Pipeline
