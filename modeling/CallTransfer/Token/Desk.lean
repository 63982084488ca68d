import CallTransfer.Token.Cache

/-!
    A shared token cache. The cache, the clock that it goes by and the number of HANDLES on it are
    together called a DESK. A handle sets, gets and clears tokens, and can be copied; all handles
    lead to the same cache.
-/

namespace CallTransfer

/-- A token cache, the present time of its clock, and how many handles there are on it. -/
structure TokenDesk where
  cache : TokenCache
  now : Instant
  handles : Nat
  deriving Repr

namespace TokenDesk

/-- An empty cache with one handle. -/
def openedAt (now : Instant) : TokenDesk := ⟨TokenCache.empty, now, 1⟩

/-- The same, with the time in milliseconds since the epoch. -/
def opened (ms : Int) : TokenDesk := openedAt (ms * Instant.millisecond)

/-- The operations of the cache, which are done through a handle. -/
inductive Use where
  | set (client token : String) (lifetime : Int)
  | get (client : String)
  | clear (client : String)
  | copy
  deriving DecidableEq, Repr

/-- A step of the shared cache: an operation, or a move of its clock, which can be put on, and back,
    by any span of time. -/
inductive Step where
  | use (handle : Nat) (what : Use)
  | advance (ms : Int) (ns : Int := 0)
  deriving DecidableEq, Repr

/-- What a step gives back; the time is told in milliseconds since the epoch. -/
inductive Answer where
  | done
  | token (found : Option String)
  | handle (number : Nat)
  | time (ms : Int)
  deriving DecidableEq, Repr

/-- What an operation gives back, and the desk after it. -/
def use (desk : TokenDesk) : Use → Except Crash (Answer × TokenDesk)
  | .set client token lifetime =>
    (desk.cache.set desk.now client token lifetime).map fun cache => (.done, { desk with cache })
  | .get client => .ok (.token (desk.cache.get? desk.now client), desk)
  | .clear client => .ok (.done, { desk with cache := desk.cache.clear client })
  | .copy => .ok (.handle desk.handles, { desk with handles := desk.handles + 1 })

/-- What a step gives back, and the desk after it. -/
def step (desk : TokenDesk) : Step → Except Crash (Answer × TokenDesk)
  | .use _ what => desk.use what
  | .advance ms ns =>
    (desk.now.later (ms * Instant.millisecond + ns)).map fun now =>
      (.time now.milliseconds, { desk with now })

/-- The same, but a step that crashes leaves the desk as it is. -/
def tryStep (desk : TokenDesk) (s : Step) : Except Crash Answer × TokenDesk :=
  match desk.step s with
  | .ok (answer, desk) => (.ok answer, desk)
  | .error crash => (.error crash, desk)

end TokenDesk

end CallTransfer
