import OpenVixDiskLib.Handle.Release

/-!
# How often a session is logged out

A `connect` block logs out of its session when it is left, and `disconnect` logs out once more, for nothing
remembers that it was called. So at the end of a program each session has been logged out once by its block
and once by each call of `disconnect` (`UserCode.logs_out_each_time`), and twice or more as soon as there was
a call (`UserCode.disconnect_logs_out_twice`). `UserCode.disconnects` counts the calls of a run.
-/

set_option autoImplicit false
set_option relaxedAutoImplicit false

namespace OpenVixDiskLib

/-- What the calls of `disconnect` on each connection make of the `connect` blocks: each call on a block that
there was is one more logout, and a block begun since has been logged out by its own end as well. -/
structure LogsOut (calls : ℕ → ℕ) (before after : List Login) : Prop where
  kept : ∀ (conn : ℕ) (login : Login), before[conn]? = some login →
    after[conn]? = some { login with logouts := login.logouts + calls conn }
  begun : ∀ (conn : ℕ) (last : Login), before.length ≤ conn → after[conn]? = some last →
    last.probe.Released ∧ last.logouts = (if last.loggedIn then 1 else 0) + calls conn
  unborn : ∀ conn : ℕ, after.length ≤ conn → calls conn = 0

namespace LogsOut

variable {calls calls' : ℕ → ℕ} {before between after : List Login}

theorem refl (logins : List Login) : LogsOut 0 logins logins where
  kept _ _ hlogin := hlogin
  begun conn last hconn hlast := by
    rw [List.getElem?_eq_none hconn] at hlast
    cases hlast
  unborn _ _ := rfl

theorem length_le (hlogs : LogsOut calls before after) : before.length ≤ after.length := by
  by_contra hless
  have hinside : after.length < before.length := not_le.mp hless
  have hlast := hlogs.kept _ _ (List.getElem?_eq_getElem hinside)
  rw [List.getElem?_eq_none le_rfl] at hlast
  cases hlast

/-- The calls of two pieces of a program add up. -/
theorem trans (hfirst : LogsOut calls before between) (hlast : LogsOut calls' between after) :
    LogsOut (calls + calls') before after where
  kept conn login hlogin := by
    have hmoved := hlast.kept conn _ (hfirst.kept conn login hlogin)
    rw [hmoved, Pi.add_apply, ← Nat.add_assoc]
  begun conn last hconn hafter := by
    by_cases hinside : conn < between.length
    · have hbetween := List.getElem?_eq_getElem hinside
      obtain ⟨hprobe, hlogouts⟩ := hfirst.begun conn _ hconn hbetween
      obtain rfl := Option.some.inj ((hlast.kept conn _ hbetween).symm.trans hafter)
      refine ⟨hprobe, ?_⟩
      change between[conn].logouts + calls' conn = _
      rw [hlogouts, Pi.add_apply, Nat.add_assoc]
    · obtain ⟨hprobe, hlogouts⟩ := hlast.begun conn last (not_lt.mp hinside) hafter
      refine ⟨hprobe, ?_⟩
      rw [hlogouts, Pi.add_apply, hfirst.unborn conn (not_lt.mp hinside), Nat.zero_add]
  unborn conn hconn := by
    rw [Pi.add_apply, hfirst.unborn conn (hlast.length_le.trans hconn), hlast.unborn conn hconn]

/-- One call of `disconnect`. Where no block has begun there is no connection, and nothing to log out of. -/
theorem disconnect (conn : ℕ) (world : World) :
    LogsOut (Pi.single conn (if conn < world.logins.length then 1 else 0)) world.logins
      (World.disconnect conn world).2.logins := by
  by_cases hinside : conn < world.logins.length
  · have hown := List.getElem?_eq_getElem hinside
    rw [World.disconnect, Proc.zoom_of_eq World.loginsPart (Proc.onEntry_of_some hown), if_pos hinside]
    change LogsOut _ world.logins (world.logins.set conn (Login.disconnect world.logins[conn]).2)
    constructor
    · intro other login hlogin
      by_cases hsame : conn = other
      · subst hsame
        obtain rfl := Option.some.inj (hown.symm.trans hlogin)
        rw [List.getElem?_set_self hinside, Pi.single_eq_same]
        rfl
      · rw [List.getElem?_set_ne hsame, hlogin, Pi.single_eq_of_ne (Ne.symm hsame)]
        rfl
    · intro other last hother hlast
      rw [List.getElem?_eq_none (by rwa [List.length_set])] at hlast
      cases hlast
    · intro other hother
      rw [List.length_set] at hother
      exact Pi.single_eq_of_ne (Nat.ne_of_gt (hinside.trans_le hother)) 1
  · have hnone := List.getElem?_eq_none (not_lt.mp hinside)
    rw [World.disconnect, Proc.zoom_of_eq World.loginsPart (Proc.onEntry_of_none hnone),
      if_neg hinside, Pi.single_zero]
    exact refl world.logins

/-- A block that is refused has no session, and has not been logged out. -/
theorem refused (logins : List Login) {last : Login} (hlast : last.Released) :
    LogsOut 0 logins (logins ++ [last]) where
  kept conn login hlogin := by
    obtain ⟨hinside, -⟩ := List.getElem?_eq_some_iff.mp hlogin
    exact (List.getElem?_append_left hinside).trans hlogin
  begun conn final hconn hfinal := by
    rw [List.getElem?_append_right hconn, List.getElem?_singleton] at hfinal
    split_ifs at hfinal
    obtain rfl := Option.some.inj hfinal
    exact ⟨hlast.probe, hlast.logouts_eq⟩
  unborn _ _ := rfl

/-- What the body leaves, with the block's own login logged out once more. -/
theorem left {entered : Login} (hbody : LogsOut calls (before ++ [entered]) after)
    (hprobe : entered.probe.Released) (hloggedIn : entered.loggedIn = true)
    (hlogouts : entered.logouts = 0) :
    LogsOut calls before (after.set before.length
      (Login.disconnect { entered with logouts := entered.logouts + calls before.length }).2) where
  kept conn login hlogin := by
    obtain ⟨hinside, -⟩ := List.getElem?_eq_some_iff.mp hlogin
    rw [List.getElem?_set_ne (Nat.ne_of_gt hinside)]
    exact hbody.kept conn login ((List.getElem?_append_left hinside).trans hlogin)
  begun conn final hconn hfinal := by
    by_cases hown : before.length = conn
    · subst hown
      rw [List.getElem?_set_self'] at hfinal
      obtain ⟨_, -, rfl⟩ := Option.map_eq_some_iff.mp hfinal
      refine ⟨hprobe, ?_⟩
      change entered.logouts + calls before.length + 1 =
        (if entered.loggedIn = true then 1 else 0) + calls before.length
      rw [hlogouts, if_pos hloggedIn]
      omega
    · rw [List.getElem?_set_ne hown] at hfinal
      refine hbody.begun conn final ?_ hfinal
      rw [List.length_append, List.length_singleton]
      omega
  unborn conn hconn := by
    rw [List.length_set] at hconn
    exact hbody.unborn conn hconn

end LogsOut

namespace UserCode

open World

/-- The calls of what runs behind a step that returns. -/
def callsBehind {α : Type} (result : Except PyError α) (calls : α → ℕ → ℕ) : ℕ → ℕ :=
  match result with
  | .error _ => 0
  | .ok value => calls value

/-- How often a run calls `disconnect` on each connection. Leaving a `connect` block is no call. -/
def disconnects (env : Environment) : UserCode → World → ℕ → ℕ
  | finish _, _ => 0
  | read handle startSector numSectors skipDecompression buf next, world =>
    let step := onHandle handle
      (Opening.read env.library startSector numSectors skipDecompression buf) world
    (next step.1).disconnects env step.2
  | write handle startSector numSectors buf next, world =>
    let step := onHandle handle (Opening.write env.library startSector numSectors buf) world
    (next step.1).disconnects env step.2
  | close handle next, world =>
    let step := onHandle handle Opening.close world
    (next step.1).disconnects env step.2
  | disconnect conn next, world =>
    let step := World.disconnect conn world
    Pi.single conn (if conn < world.logins.length then 1 else 0) + (next step.1).disconnects env step.2
  | connect args body next, world =>
    let index := world.logins.length
    let entry := Login.enter env.special args (.fresh (env.logins index))
    let block := connectBlock env args (fun index ↦ run env (body index)) world
    callsBehind entry.1
        (fun _ ↦ (body index).disconnects env { world with logins := world.logins ++ [entry.2] }) +
      (next block.1).disconnects env block.2
  | openDisk conn call body next, world =>
    let index := world.openings.length
    let block := openBlock env conn call (fun index ↦ run env (body index)) world
    callsBehind (connection conn world).1 (fun connection ↦
        let entry := Opening.enter env.special call (.fresh connection (env.openings index))
        callsBehind entry.1 fun _ ↦
          (body index).disconnects env { world with openings := world.openings ++ [entry.2] }) +
      (next block.1).disconnects env block.2

variable {env : Environment} {body : ℕ → UserCode}

/-- A `connect` block logs out as its body does, and once at its end. -/
theorem connectBlock_logsOut (args : ConnectArgs) (hbody : ∀ index world,
      LogsOut ((body index).disconnects env world) world.logins ((body index).run env world).2.logins)
    (world : World) :
    LogsOut
      (callsBehind (Login.enter env.special args (.fresh (env.logins world.logins.length))).1 fun _ ↦
        (body world.logins.length).disconnects env { world with logins := world.logins ++
          [(Login.enter env.special args (.fresh (env.logins world.logins.length))).2] })
      world.logins (connectBlock env args (fun index ↦ run env (body index)) world).2.logins := by
  have hlawful : loginsPart.Lawful := fun _ _ ↦ rfl
  have houtcome := Login.enter_outcome env.special args (env.logins world.logins.length)
  rw [connectBlock, Proc.withEntry_apply hlawful]
  dsimp only [loginsPart]
  rcases henter : Login.enter env.special args (.fresh (env.logins world.logins.length)) with
    ⟨error | ⟨⟨⟩⟩, entered⟩
  all_goals rw [henter] at houtcome
  · exact .refused world.logins houtcome
  · obtain ⟨hprobe, hloggedIn, hlogouts⟩ := houtcome
    have hran := hbody world.logins.length { world with logins := world.logins ++ [entered] }
    have hown := hran.kept _ entered List.getElem?_concat_length
    dsimp only
    rw [Proc.tryFinally_snd, Proc.zoom_apply, Proc.onEntry_of_some hown]
    exact hran.left hprobe hloggedIn hlogouts

/-- Looking a connection up changes nothing. -/
theorem connection_snd (conn : ℕ) (world : World) : (connection conn world).2 = world := by
  have hsame : ∀ login : Login, (Login.connection login).2 = login := by
    intro login
    unfold Login.connection
    split <;> rfl
  rcases hlogin : world.logins[conn]? with _ | login
  · rw [connection, Proc.zoom_of_eq loginsPart (Proc.onEntry_of_none hlogin)]
    rfl
  · rw [connection, Proc.zoom_of_eq loginsPart (Proc.onEntry_of_some hlogin), hsame]
    obtain ⟨hinside, hown⟩ := List.getElem?_eq_some_iff.mp hlogin
    change { world with logins := world.logins.set conn login } = world
    rw [← hown, List.set_getElem_self]

/-- An `open` block logs out as its body does. -/
theorem openBlock_logsOut (conn : ℕ) (call : OpenCall) (hbody : ∀ index world,
      LogsOut ((body index).disconnects env world) world.logins ((body index).run env world).2.logins)
    (world : World) :
    LogsOut
      (callsBehind (connection conn world).1 fun connection ↦
        callsBehind (Opening.enter env.special call
            (.fresh connection (env.openings world.openings.length))).1 fun _ ↦
          (body world.openings.length).disconnects env { world with openings := world.openings ++
            [(Opening.enter env.special call
              (.fresh connection (env.openings world.openings.length))).2] })
      world.logins (openBlock env conn call (fun index ↦ run env (body index)) world).2.logins := by
  have hlawful : openingsPart.Lawful := fun _ _ ↦ rfl
  have hsame := connection_snd conn world
  rcases hlookup : connection conn world with ⟨error | connection, found⟩
  all_goals
    rw [hlookup] at hsame
    subst hsame
  · rw [openBlock, Proc.bind_of_error hlookup]
    exact .refl found.logins
  rw [openBlock, Proc.bind_of_ok hlookup, Proc.withEntry_apply hlawful]
  dsimp only [openingsPart, callsBehind]
  rcases henter : Opening.enter env.special call
    (.fresh connection (env.openings found.openings.length)) with ⟨error | ⟨⟨⟩⟩, entered⟩
  · exact .refl found.logins
  · dsimp only
    rw [Proc.tryFinally_snd, Proc.zoom_apply]
    exact hbody _ _

/-- Each connection of a program is logged out by the calls of `disconnect` on it, and by the end of its
block. -/
theorem logs_out_each_time (env : Environment) (code : UserCode) (world : World) :
    LogsOut (code.disconnects env world) world.logins (code.run env world).2.logins := by
  induction code generalizing world with
  | finish outcome => exact .refl world.logins
  | read handle startSector numSectors skipDecompression buf next ih => exact ih _ _
  | write handle startSector numSectors buf next ih => exact ih _ _
  | close handle next ih => exact ih _ _
  | disconnect conn next ih => exact (LogsOut.disconnect conn world).trans (ih _ _)
  | connect args body next hbody hnext => exact (connectBlock_logsOut args hbody world).trans (hnext _ _)
  | openDisk conn call body next hbody hnext =>
    exact (openBlock_logsOut conn call hbody world).trans (hnext _ _)

/-- A session that the program called `disconnect` on is logged out twice or more: its block does not know. -/
theorem disconnect_logs_out_twice (env : Environment) (world : World) (code : UserCode) {conn : ℕ}
    {last : Login} (hnew : world.logins.length ≤ conn)
    (hlast : (code.run env world).2.logins[conn]? = some last) (hloggedIn : last.loggedIn = true)
    (hcalled : 0 < code.disconnects env world conn) : 2 ≤ last.logouts := by
  obtain ⟨-, hlogouts⟩ := (logs_out_each_time env code world).begun conn last hnew hlast
  rw [hlogouts, if_pos hloggedIn]
  omega

example : ((UserCode.connect ⟨"vc", none, some "moref=vm-1", true, none, 443, true⟩
      (fun conn ↦ .disconnect conn .finish) .finish).run (willingEnvironment bareTicket openNfcRoute)
        ⟨[], []⟩).2.logins.map Login.logouts = [2] := by
  decide +kernel

/-- A program releases everything exactly when its `open` blocks are guarded and none of its blocks is also
logged out by a call. -/
theorem releases_iff_of_disconnects (env : Environment) (world : World) (code : UserCode) :
    code.Releases env world ↔
      code.Guarded env world ∧ ∀ conn, world.logins.length ≤ conn → code.disconnects env world conn = 0 := by
  have hsettled := (settles env code world).settled
  have hlogs := logs_out_each_time env code world
  constructor
  · intro hreleases
    refine ⟨fun index opening hnew hopening ↦ ?_, fun conn hnew ↦ ?_⟩
    · exact (hsettled index opening hnew hopening).nfc.mp
        (hreleases.openings index opening hnew hopening).nfc
    · rcases hlast : (code.run env world).2.logins[conn]? with _ | last
      · exact hlogs.unborn conn (List.getElem?_eq_none_iff.mp hlast)
      · have honce := (hreleases.logins conn last hnew hlast).logouts_eq
        rw [(hlogs.begun conn last hnew hlast).2] at honce
        omega
  · rintro ⟨hguarded, hcalls⟩
    constructor
    · intro conn last hnew hlast
      obtain ⟨hprobe, hlogouts⟩ := hlogs.begun conn last hnew hlast
      rw [hcalls conn hnew] at hlogouts
      exact ⟨hprobe, hlogouts⟩
    · intro index opening hnew hopening
      have hopening' := hsettled index opening hnew hopening
      exact ⟨hopening'.authd, hopening'.nfc.mpr (hguarded index opening hnew hopening)⟩

end UserCode

end OpenVixDiskLib
