import LoveApi.Go

/-!
# Rate limits

`InMemoryRateLimiter` keeps a queue of times for each key and sweeps out the keys that have not been used for long.
-/

namespace LoveApi

open Go

/-! ### The limiter in memory -/

/-- The map is nil before the first `Init`. A `time.Duration` counts nanoseconds. -/
structure InMemoryRateLimiter where
  store : Option (String → Option (List Time)) := none
  expirationDuration : Int := 0

namespace InMemoryRateLimiter

variable (l : InMemoryRateLimiter)

def init (expirationDuration : Int) : InMemoryRateLimiter :=
  match l.store with
  | some _ => l
  | none => { store := some fun _ => none, expirationDuration := expirationDuration }

def unexpired (now : Time) (queue : List Time) : Bool :=
  match queue.getLast? with
  | none => false
  | some last => now - last ≤ l.expirationDuration / 10 ^ 9

/-- A round of `clearExpiredItems`. The first `Init` starts it if the duration is positive. -/
def clearExpiredItems (now : Time) : InMemoryRateLimiter :=
  if 0 < l.expirationDuration then
    { l with store := l.store.map fun store key => (store key).filter (l.unexpired now) }
  else l

def setQueue (store : String → Option (List Time)) (key : String) (queue : List Time) : InMemoryRateLimiter :=
  { l with store := some (Function.update store key (some queue)) }

/-- A request is allowed or not, or it panics: in a map that is nil, and on a negative number of requests. -/
def request (key : String) (maxRequestNum duration : Int) (now : Time) : Option (Bool × InMemoryRateLimiter) :=
  match l.store with
  | none => none
  | some store =>
    match store key with
    | some queue =>
      if queue.length < maxRequestNum then some (true, l.setQueue store key (queue ++ [now]))
      else
        match queue with
        | [] => none
        | oldest :: rest =>
          if now - oldest ≥ duration then some (true, l.setQueue store key (rest ++ [now])) else some (false, l)
    | none => if maxRequestNum < 0 then none else some (true, l.setQueue store key [now])

end InMemoryRateLimiter

inductive LimiterAction
  | init (expirationDuration : Int)
  | request (key : String) (now : Time)
  | sweep (now : Time)
deriving DecidableEq, Repr

namespace LimiterAction

def time? : LimiterAction → Option Time
  | init _ => none
  | request _ now | sweep now => some now

def expirationDuration? : LimiterAction → Option Int
  | init expirationDuration => some expirationDuration
  | _ => none

end LimiterAction

structure LimiterAnswer where
  key : String
  now : Time
  allowed : Bool
deriving DecidableEq, Repr

/-- A limiter and what it has answered. A request that panics has no answer. -/
structure LimiterState where
  limiter : InMemoryRateLimiter := {}
  answers : List LimiterAnswer := []

section Actions

variable (maxRequestNum duration : String → Int)

def LimiterState.act (s : LimiterState) : LimiterAction → LimiterState
  | .init expirationDuration => { s with limiter := s.limiter.init expirationDuration }
  | .request key now =>
    match s.limiter.request key (maxRequestNum key) (duration key) now with
    | none => s
    | some (allowed, limiter) => { limiter := limiter, answers := s.answers ++ [⟨key, now, allowed⟩] }
  | .sweep now => { s with limiter := s.limiter.clearExpiredItems now }

def limiterRun (actions : List LimiterAction) : LimiterState :=
  actions.foldl (LimiterState.act maxRequestNum duration) {}

end Actions

/-! ### The token bucket -/

structure LimiterConfig where
  capacity : Int := 10
  rate : Int := 1
  requested : Int := 1
deriving DecidableEq, Repr

structure Bucket where
  tokens : Int
  lastTime : Int
deriving DecidableEq, Repr

def LimiterConfig.refill (config : LimiterConfig) (nowInSeconds : Int) : Option Bucket → Int
  | none => config.capacity
  | some bucket => min config.capacity (bucket.tokens + (nowInSeconds - bucket.lastTime) * config.rate)

/-- `rate_limit.lua`. -/
def rateLimit (config : LimiterConfig) (nowInSeconds : Int) (bucket : Option Bucket) : Bool × Bucket :=
  let tokens := config.refill nowInSeconds bucket
  if tokens ≥ config.requested then (true, ⟨tokens - config.requested, nowInSeconds⟩)
  else (false, ⟨tokens, nowInSeconds⟩)

/-- The answer of `TIME`. The script reads the seconds only. -/
structure RedisTime where
  seconds : Int
  microseconds : Fin 1000000 := 0
deriving DecidableEq, Repr

def RedisTime.exact (t : RedisTime) : ℚ := t.seconds + (t.microseconds : ℚ) / 1000000

/-- Executions of the script one after the other: the answers, and the bucket that they leave. -/
def rateLimitRun (config : LimiterConfig) : Option Bucket → List RedisTime → List Bool × Option Bucket
  | bucket, [] => ([], bucket)
  | bucket, t :: times =>
    let (allowed, bucket) := rateLimit config t.seconds bucket
    let (answers, bucket) := rateLimitRun config (some bucket) times
    (allowed :: answers, bucket)

def totalConfig (totalMaxCount duration : Int) : LimiterConfig where
  capacity := totalMaxCount * duration
  rate := totalMaxCount
  requested := duration

/-! ### The limit of model requests -/

structure TimedRequest where
  start : Time
  finish : Time
  success : Bool
deriving DecidableEq, Repr

inductive RateLimitVerdict
  | admitted
  | tooManyRequests
  | checkFailed
deriving DecidableEq, Repr

/-- The settings of the limit; `duration` is the window in seconds. -/
structure RateLimitSettings where
  durationMinutes : Int := 1
  duration : Int := 60
  totalMaxCount : Int := 0
  successMaxCount : Int := 1000
deriving DecidableEq, Repr

section Memory

variable (settings : RateLimitSettings) (userId : Int)

def totalKey : String := "MRRL" ++ toString userId

def successKey : String := "MRRLS" ++ toString userId

def checkKey : String := successKey userId ++ "_check"

def memoryRateLimitHandler (l : InMemoryRateLimiter) (r : TimedRequest) :
    Option (RateLimitVerdict × InMemoryRateLimiter) := do
  let l := l.init (settings.durationMinutes * 60 * 10 ^ 9)
  let (allowed, l) ←
    if settings.totalMaxCount > 0 then
      l.request (totalKey userId) settings.totalMaxCount settings.duration r.start
    else some (true, l)
  if !allowed then some (.tooManyRequests, l)
  else
    let (allowed, l) ← l.request (checkKey userId) settings.successMaxCount settings.duration r.start
    if !allowed then some (.tooManyRequests, l)
    else if r.success then
      let (_, l) ← l.request (successKey userId) settings.successMaxCount settings.duration r.finish
      some (.admitted, l)
    else some (.admitted, l)

end Memory

/-- A list in Redis, with the newest time first, and the time at which it expires. -/
structure RedisList where
  entries : List Time
  expireAt : Time
deriving DecidableEq, Repr

def liveEntries (now : Time) : Option RedisList → List Time
  | none => []
  | some list => if now < list.expireAt then list.entries else []

/-- `LTRIM key 0 stop`, where a negative index counts from the end. -/
def ltrim (entries : List Time) (stop : Int) : List Time :=
  entries.take (if 0 ≤ stop then stop + 1 else entries.length + stop + 1).toNat

/-- `EXPIRE`, which deletes a key whose time to live is not positive. -/
def expire (now : Time) (seconds : Int) (entries : List Time) : Option RedisList :=
  if entries = [] ∨ seconds ≤ 0 then none else some ⟨entries, now + seconds⟩

structure RedisUser where
  successes : Option RedisList := none
  bucket : Option Bucket := none
deriving DecidableEq, Repr

section Redis

variable (settings : RateLimitSettings)

def checkRedisRateLimit (now : Time) (list : Option RedisList) : RateLimitVerdict × Option RedisList :=
  if settings.successMaxCount = 0 then (.admitted, list)
  else
    let entries := liveEntries now list
    if entries.length < settings.successMaxCount then (.admitted, list)
    else
      match entries.getLast? with
      | none => (.checkFailed, list)
      | some oldTime =>
        if now - oldTime < settings.duration then
          (.tooManyRequests, expire now (settings.durationMinutes * 60) entries)
        else (.admitted, list)

def recordRedisRequest (now : Time) (list : Option RedisList) : Option RedisList :=
  if settings.successMaxCount = 0 then list
  else
    expire now (settings.durationMinutes * 60)
      (ltrim (now :: liveEntries now list) (settings.successMaxCount - 1))

def redisRateLimitHandler (user : RedisUser) (r : TimedRequest) : RateLimitVerdict × RedisUser :=
  match checkRedisRateLimit settings r.start user.successes with
  | (.admitted, successes) =>
    let user := { user with successes := successes }
    let (allowed, user) :=
      if settings.totalMaxCount > 0 then
        let (allowed, bucket) :=
          rateLimit (totalConfig settings.totalMaxCount settings.duration) r.start user.bucket
        (allowed, { user with bucket := some bucket })
      else (true, user)
    if !allowed then (.tooManyRequests, user)
    else if r.success then
      (.admitted, { user with successes := recordRedisRequest settings r.finish user.successes })
    else (.admitted, user)
  | (verdict, successes) => (verdict, { user with successes := successes })

end Redis

inductive HandlerAction
  | request (r : TimedRequest)
  | sweep (now : Time)
deriving DecidableEq, Repr

namespace HandlerAction

def times : HandlerAction → List Time
  | request r => [r.start, r.finish]
  | sweep now => [now]

def request? : HandlerAction → Option TimedRequest
  | request r => some r
  | sweep _ => none

end HandlerAction

section Runs

variable (settings : RateLimitSettings) (userId : Int)

/-- The verdicts of `memoryRateLimitHandler` on the requests of a user. A request that panics has none. -/
def memoryVerdicts : InMemoryRateLimiter → List HandlerAction → List (Option RateLimitVerdict)
  | _, [] => []
  | l, .sweep now :: actions => memoryVerdicts (l.clearExpiredItems now) actions
  | l, .request r :: actions =>
    match memoryRateLimitHandler settings userId l r with
    | none => none :: memoryVerdicts l actions
    | some (verdict, l) => some verdict :: memoryVerdicts l actions

def redisVerdicts : RedisUser → List TimedRequest → List RateLimitVerdict
  | _, [] => []
  | user, r :: requests =>
    let (verdict, user) := redisRateLimitHandler settings user r
    verdict :: redisVerdicts user requests

end Runs

end LoveApi
