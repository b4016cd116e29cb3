import OrderedStore.Store.Basic

/-!
# Opening and closing databases

Opening acquires a logger, a block cache, the locked directory and the engine, in
this order, and whatever has been acquired is released again if a later one fails.
Closing revokes the leases of the children and then releases the engine, the
cache and the logger, each of which says so.  The identity of a session is used up
also by an open that fails.
-/

set_option autoImplicit false

namespace OrderedStore.Store

/-! ## The block cache and the logger -/

/-- Allocates the block cache, if one is asked for. -/
def allocateCache (s : Store) (logger : Logger) (options : Options) : Store :=
  match options.cache with
  | some capacity => s.note logger (.cacheAllocated capacity)
  | none => s

/-- Releases the block cache, if there is one. -/
def releaseCache (s : Store) (logger : Logger) (options : Options) : Store :=
  match options.cache with
  | some capacity => s.note logger (.cacheReleased capacity)
  | none => s

/-- Releases the logger of a session. -/
def releaseLogger (s : Store) (logger : Logger) : Store :=
  s.note logger (.loggerReleased logger.name)

/-- Uses up the identity of a session that did not come about. -/
def passSession (s : Store) : Store := { s with sessions := s.sessions.skip }

/-- Releases what a failed open had acquired besides the directory. -/
def abandon (s : Store) (logger : Logger) (options : Options) : Store :=
  ((s.releaseCache logger options).releaseLogger logger).passSession

/-! ## Opening -/

/-- The name of a database in memory. -/
def memoryName : String := ":memory:"

/-- Makes a session of what has been acquired. -/
def assemble (s : Store) (logger : Logger) (options : Options) (engine : Engine) :
    Store × SessionId :=
  let s := s.say logger .databaseOpened
  ({ s with sessions := s.sessions.insert ⟨logger, options, engine, 0, 0, []⟩ },
    s.sessions.fresh)

/-- Warns that a check has rebuilt the engine file. -/
def warnRebuilt (s : Store) (logger : Logger) (rebuilt : Bool) : Store :=
  if rebuilt then s.say logger .integrityRepaired else s

/-- Opens the database at a path. -/
def openAt (s : Store) (path : String) (options : Options) : Store × Except Error SessionId :=
  let logger := s.logger path
  let s := s.allocateCache logger options
  match Directory.openAt s.volume path options.createIfMissing with
  | (v, .error e) => ({ s with volume := v }.abandon logger options, .error e)
  | (v, .ok directory) =>
    let existing := directory.hasData v
    match Engine.openIn v directory options s.verdicts with
    | (v, rebuilt, .error e) =>
      (({ s with volume := directory.release v }.warnRebuilt logger rebuilt).abandon
        logger options, .error e)
    | (v, rebuilt, .ok engine) =>
      let s := ({ s with volume := v }.warnRebuilt logger rebuilt).say
        logger (.engineOpened existing)
      let (s, id) := s.assemble logger options engine
      (s, .ok id)

/-- Opens an empty database in memory. -/
def openInMemory (s : Store) (options : Options) : Store × Except Error SessionId :=
  let logger := s.logger memoryName
  let s := s.allocateCache logger options
  match Engine.openInMemory s.verdicts with
  | .error e => (s.abandon logger options, .error e)
  | .ok engine =>
    let (s, id) := s.assemble logger options engine
    (s, .ok id)

/-! ## Closing -/

/-- Revokes every lease of a session that is still held, and says how many there
were. -/
def revokeLeases (s : Store) (session : Session) : Store :=
  let held := session.leases.filter s.isHeld
  let s := held.foldl revoke s
  if held = [] then s else s.say session.logger (.viewsRevoked held.length)

/-- Ends a session: leases, engine, directory, cache, logger. -/
def discard (s : Store) (id : SessionId) : Store :=
  match s.sessions.get? id with
  | none => s
  | some session =>
    let s := s.revokeLeases session
    let s := s.say session.logger (.closingSession (session.options.cache.getD 0))
    let s := s.note session.logger (.engineReleased session.engine.home.isNone)
    let s := { s with
      volume := session.engine.release s.volume
      sessions := s.sessions.erase id }
    (s.releaseCache session.logger session.options).releaseLogger session.logger

/-- Closes a session, with a warning if children of it are still there. -/
def close (s : Store) (id : SessionId) : Store :=
  match s.sessions.get? id with
  | none => s
  | some session =>
    let s :=
      if session.liveSnapshots + session.liveIterators > 0 then
        s.say session.logger
          (.closingWithChildren session.liveSnapshots session.liveIterators)
      else s
    s.discard id

/-! ## Maintenance -/

/-- Removes the database at a path. -/
def destroy (s : Store) (path : String) : Store × Except Error Unit :=
  match Directory.destroy s.volume path with
  | (v, .error e) => ({ s with volume := v }, .error e)
  | (v, .ok ()) => ({ s with volume := v }.record ⟨none, none, .databaseDestroyed path⟩, .ok ())

/-- What a repair reports. -/
def repairNotice (rebuilt : Bool) : Notice :=
  if rebuilt then .engineRebuilt else .engineConsistent

/-- Opens the engine file at a path and lets it check and mend itself. -/
def repair (s : Store) (path : String) : Store × Except Error Unit :=
  let logger := s.logger path
  match Directory.openAt s.volume path false with
  | (v, .error e) => (({ s with volume := v }.releaseLogger logger).passSession, .error e)
  | (v, .ok directory) =>
    match Engine.openChecked v directory false true s.verdicts with
    | (v, _, .error e) =>
      (({ s with volume := directory.release v }.releaseLogger logger).passSession, .error e)
    | (v, rebuilt, .ok engine) =>
      let s := s.say logger (repairNotice rebuilt)
      (({ s with volume := engine.release v }.releaseLogger logger).passSession, .ok ())

end OrderedStore.Store
