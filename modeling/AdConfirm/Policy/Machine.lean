import AdConfirm.Policy.Center

/-!
A policy center on its own: the center, its surroundings, its timers in virtual time, and what each watcher has seen. A center
that is not made at the zero of the clock is one that lets time pass first.
-/

namespace AdConfirm.Policy

structure Machine where
  center : Center
  surroundings : Surroundings
  agenda : Agenda Expiry
  seen : List Nat
  log : List Log.Line

namespace Machine

/-- a center at time zero, without watchers -/
def ofCenter (c : Center) (w : Surroundings) : Machine := ⟨c, w, .empty, [], []⟩

def turn (m : Machine) : Expiry → Machine
  | .set path ttl => { m with agenda := m.agenda.sleepUntil (m.agenda.now + 1000 * ttl) (.due path) }
  | .due path => { m with center := m.center.expire m.agenda.now path }

/-- how timers take turns: none makes another one ready -/
def loop : Loop Machine Expiry where
  agenda := Machine.agenda
  withAgenda m a := { m with agenda := a }
  turn := turn
  turns m := m.agenda.ready.length

def note (m : Machine) (lines : List Log.Line) : Machine := { m with log := lines.reverse ++ m.log }

def apply (m : Machine) (s : OverrideSpec) : Machine × Except ApplyFault Unit :=
  let (c, r) := m.center.apply m.agenda.now s
  let m := { m with center := c }.note (Center.applyLines s)
  match r with
  | .error e => (m, .error e)
  | .ok none => (m, .ok ())
  | .ok (some timer) => ({ m with agenda := m.agenda.spawn timer }, .ok ())

def clear (m : Machine) (path : String) : Machine × Except PolicyError Bool :=
  let (c, r) := m.center.clear m.agenda.now path
  ({ m with center := c }, r)

def reload (m : Machine) : Machine × Except PolicyError Unit :=
  let (c, r, lines) := m.center.reload m.agenda.now m.surroundings
  ({ m with center := c }.note lines, r)

/-- a new watcher, who has seen the present snapshot -/
def subscribe (m : Machine) : Machine × Nat := ({ m with seen := m.seen ++ [m.center.published] }, m.seen.length)

/-- whether a watcher has something new to see; it has seen it then -/
def changed (m : Machine) (i : Nat) : Machine × Bool :=
  ({ m with seen := m.seen.set i m.center.published }, (m.seen[i]?).any (· ≠ m.center.published))

end Machine

end AdConfirm.Policy
