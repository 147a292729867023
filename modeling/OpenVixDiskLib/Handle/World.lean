import OpenVixDiskLib.Base.Blocks
import OpenVixDiskLib.Handle.Login

/-!
# User code

A program that uses a `VixDiskLibHandle`: it enters `connect` and `open` blocks, one inside or behind the
other, reads, writes, closes and disconnects between them, and may raise or catch anything. `UserCode` is
such a program, which goes on with what each call returned or raised, and `UserCode.run` runs it on a
`World` that keeps the `connect` and `open` blocks that were ever begun. What each block will meet is
given by the number of blocks before it (`Environment`).

The run lemmas reduce what holds of every block after a run to what holds where a block is refused or
left: `UserCode.run_handles` and `UserCode.run_openings` for `open`, and `UserCode.run_logins` for `connect`.
-/

set_option autoImplicit false
set_option relaxedAutoImplicit false

namespace OpenVixDiskLib

/-- What is outside the client: the rest of Unicode, the FastLZ library, and what each block meets. -/
structure Environment where
  special : Char → List Char
  library : FastLzLibrary
  logins : ℕ → LoginFate
  openings : ℕ → OpeningFate

/-- The calls on a handle. -/
inductive HandleCall (library : FastLzLibrary) : {α : Type} → Py Opening α → Prop
  | read (startSector numSectors : ℤ) (skipDecompression : Bool) (buf : Buffer) :
      HandleCall library (Opening.read library startSector numSectors skipDecompression buf)
  | write (startSector numSectors : ℤ) (buf : SourceBuffer) :
      HandleCall library (Opening.write library startSector numSectors buf)
  | close : HandleCall library Opening.close

theorem HandleCall.steps {library : FastLzLibrary} {α : Type} {body : Py Opening α}
    (hcall : HandleCall library body) : Proc.Moves Opening.Steps body := by
  cases hcall with
  | read => exact Opening.steps_read _ _ _ _ _
  | write => exact Opening.steps_write _ _ _ _
  | close => exact Opening.steps_close

/-- The blocks that were begun, in this order. -/
structure World where
  logins : List Login
  openings : List Opening

/-- A program on the public interface. A block hands its number to its body, and the program goes on with
what the block raised. -/
inductive UserCode
  | finish (outcome : Except PyError Unit)
  | read (handle : ℕ) (startSector numSectors : ℤ) (skipDecompression : Bool) (buf : Buffer)
      (next : Except PyError (Except PyError ReadResult × Buffer) → UserCode)
  | write (handle : ℕ) (startSector numSectors : ℤ) (buf : SourceBuffer)
      (next : Except PyError Unit → UserCode)
  | close (handle : ℕ) (next : Except PyError Unit → UserCode)
  | disconnect (conn : ℕ) (next : Except PyError Unit → UserCode)
  | connect (args : ConnectArgs) (body : ℕ → UserCode) (next : Except PyError Unit → UserCode)
  | openDisk (conn : ℕ) (call : OpenCall) (body : ℕ → UserCode) (next : Except PyError Unit → UserCode)

namespace World

def loginsPart : Proc.Part World (List Login) where
  get := World.logins
  set := fun logins world ↦ { world with logins := logins }

def openingsPart : Proc.Part World (List Opening) where
  get := World.openings
  set := fun openings world ↦ { world with openings := openings }

/-- A call on a handle. -/
def onHandle {α : Type} (handle : ℕ) (body : Py Opening α) : Py World α :=
  Proc.zoom openingsPart (Proc.onEntry Opening.notOpened handle body)

/-- The connection of a `connect` block. -/
def connection (conn : ℕ) : Py World Connection :=
  Proc.zoom loginsPart (Proc.onEntry Login.notConnected conn Login.connection)

/-- `disconnect`. -/
def disconnect (conn : ℕ) : Py World Unit :=
  Proc.zoom loginsPart (Proc.onEntry Login.notConnected conn Login.disconnect)

/-- `with handle.connect(...) as conn`. -/
def connectBlock (env : Environment) (args : ConnectArgs) (body : ℕ → Py World Unit) : Py World Unit :=
  Proc.withEntry loginsPart Login.notConnected (fun index ↦ Login.fresh (env.logins index))
    (Login.enter env.special args) Login.disconnect body

/-- `with handle.open(conn, ...) as disk_handle`. -/
def openBlock (env : Environment) (conn : ℕ) (call : OpenCall) (body : ℕ → Py World Unit) :
    Py World Unit := do
  let connection ← connection conn
  Proc.withEntry openingsPart Opening.notOpened
    (fun index ↦ Opening.fresh connection (env.openings index))
    (Opening.enter env.special call) Opening.close body

end World

namespace UserCode

open World

/-- Run a program. -/
def run (env : Environment) : UserCode → Py World Unit
  | finish outcome => Proc.lift outcome
  | read handle startSector numSectors skipDecompression buf next => do
    let result ← Proc.attempt
      (onHandle handle (Opening.read env.library startSector numSectors skipDecompression buf))
    run env (next result)
  | write handle startSector numSectors buf next => do
    let result ← Proc.attempt
      (onHandle handle (Opening.write env.library startSector numSectors buf))
    run env (next result)
  | close handle next => do
    let result ← Proc.attempt (onHandle handle Opening.close)
    run env (next result)
  | disconnect conn next => do
    let result ← Proc.attempt (World.disconnect conn)
    run env (next result)
  | connect args body next => do
    let result ← Proc.attempt (connectBlock env args fun index ↦ run env (body index))
    run env (next result)
  | openDisk conn call body next => do
    let result ← Proc.attempt (openBlock env conn call fun index ↦ run env (body index))
    run env (next result)

/-- No call of the program is a `disconnect`; leaving a `connect` block is none. -/
def NeverDisconnects : UserCode → Prop
  | finish _ => True
  | read _ _ _ _ _ next => ∀ result, (next result).NeverDisconnects
  | write _ _ _ _ next => ∀ result, (next result).NeverDisconnects
  | close _ next => ∀ result, (next result).NeverDisconnects
  | disconnect _ _ => False
  | connect _ body next =>
    (∀ index, (body index).NeverDisconnects) ∧ ∀ result, (next result).NeverDisconnects
  | openDisk _ _ body next =>
    (∀ index, (body index).NeverDisconnects) ∧ ∀ result, (next result).NeverDisconnects

/-- The arguments of every `connect` and of every `open` of the program are of a kind. -/
def Uses (connects : ConnectArgs → Prop) (opens : OpenCall → Prop) : UserCode → Prop
  | finish _ => True
  | read _ _ _ _ _ next => ∀ result, (next result).Uses connects opens
  | write _ _ _ _ next => ∀ result, (next result).Uses connects opens
  | close _ next => ∀ result, (next result).Uses connects opens
  | disconnect _ next => ∀ result, (next result).Uses connects opens
  | connect args body next => connects args ∧
    (∀ index, (body index).Uses connects opens) ∧ ∀ result, (next result).Uses connects opens
  | openDisk _ call body next => opens call ∧
    (∀ index, (body index).Uses connects opens) ∧ ∀ result, (next result).Uses connects opens

/-- The buffers of all reads of the program are flat. -/
def ReadsFlat : UserCode → Prop
  | finish _ => True
  | read _ _ _ _ buf next => buf.Flat ∧ ∀ result, (next result).ReadsFlat
  | write _ _ _ _ next => ∀ result, (next result).ReadsFlat
  | close _ next => ∀ result, (next result).ReadsFlat
  | disconnect _ next => ∀ result, (next result).ReadsFlat
  | connect _ body next => (∀ index, (body index).ReadsFlat) ∧ ∀ result, (next result).ReadsFlat
  | openDisk _ _ body next => (∀ index, (body index).ReadsFlat) ∧ ∀ result, (next result).ReadsFlat

/-- Every program uses some arguments. -/
theorem uses_some (code : UserCode) : code.Uses (fun _ ↦ True) fun _ ↦ True := by
  induction code with
  | finish outcome => trivial
  | read handle startSector numSectors skipDecompression buf next ih => exact ih
  | write handle startSector numSectors buf next ih => exact ih
  | close handle next ih => exact ih
  | disconnect conn next ih => exact ih
  | connect args body next hbody hnext => exact ⟨trivial, hbody, hnext⟩
  | openDisk conn call body next hbody hnext => exact ⟨trivial, hbody, hnext⟩

/-! ### Runs -/

variable {env : Environment} {relation : World → World → Prop} {connects : ConnectArgs → Prop}
  {opens : OpenCall → Prop}

/-- What the calls and the two blocks keep is kept by every program. -/
theorem run_calls (hrefl : ∀ world, relation world world)
    (htrans : ∀ first middle last, relation first middle → relation middle last →
      relation first last)
    (hcall : ∀ {α : Type} (handle : ℕ) {body : Py Opening α}, HandleCall env.library body →
      Proc.Moves relation (onHandle handle body))
    (hconnect : ∀ args, connects args → ∀ body, (∀ index, Proc.Moves relation (body index)) →
      Proc.Moves relation (connectBlock env args body))
    (hopen : ∀ conn call, opens call → ∀ body, (∀ index, Proc.Moves relation (body index)) →
      Proc.Moves relation (openBlock env conn call body)) :
    ∀ code : UserCode, code.Uses connects opens → (code.NeverDisconnects ∨
        ∀ conn, Proc.Moves relation (World.disconnect conn)) → Proc.Moves relation (code.run env) := by
  intro code
  induction code with
  | finish outcome => exact fun _ _ ↦ .lift hrefl outcome
  | read handle startSector numSectors skipDecompression buf next ih =>
    intro huses hcode
    refine .bind htrans (.attempt (hcall handle (.read _ _ _ _))) fun result ↦ ?_
    exact ih result (huses result) (hcode.imp_left fun hnever ↦ hnever result)
  | write handle startSector numSectors buf next ih =>
    intro huses hcode
    refine .bind htrans (.attempt (hcall handle (.write _ _ _))) fun result ↦ ?_
    exact ih result (huses result) (hcode.imp_left fun hnever ↦ hnever result)
  | close handle next ih =>
    intro huses hcode
    refine .bind htrans (.attempt (hcall handle .close)) fun result ↦ ?_
    exact ih result (huses result) (hcode.imp_left fun hnever ↦ hnever result)
  | disconnect conn next ih =>
    intro huses hcode
    have hdisconnect := hcode.resolve_left id
    exact .bind htrans (.attempt (hdisconnect conn)) fun result ↦
      ih result (huses result) (.inr hdisconnect)
  | connect args body next hbody hnext =>
    intro huses hcode
    refine .bind htrans (.attempt (hconnect args huses.1 _ fun index ↦ ?_)) fun result ↦ ?_
    · exact hbody index (huses.2.1 index) (hcode.imp_left fun hnever ↦ hnever.1 index)
    · exact hnext result (huses.2.2 result) (hcode.imp_left fun hnever ↦ hnever.2 result)
  | openDisk conn call body next hbody hnext =>
    intro huses hcode
    refine .bind htrans (.attempt (hopen conn call huses.1 _ fun index ↦ ?_)) fun result ↦ ?_
    · exact hbody index (huses.2.1 index) (hcode.imp_left fun hnever ↦ hnever.1 index)
    · exact hnext result (huses.2.2 result) (hcode.imp_left fun hnever ↦ hnever.2 result)

/-- Every `open` block that a run begins ends settled, when a block that is refused is settled, and a block
that is left is, whatever calls were made on its handle; blocks that there were before are moved by
calls. -/
theorem run_handles {moves : Opening → Opening → Prop} {settled : Opening → Prop}
    (hrefl : ∀ opening, moves opening opening)
    (htrans : ∀ first middle last, moves first middle → moves middle last → moves first last)
    (hstable : ∀ before after, settled before → moves before after → settled after)
    (hcall : ∀ {α : Type} {body : Py Opening α}, HandleCall env.library body → Proc.Moves moves body)
    (hrefused : ∀ conn call index error after, opens call →
      Opening.enter env.special call (.fresh conn (env.openings index)) = (.error error, after) →
      settled after)
    (hleft : ∀ conn call index entered last, opens call →
      Opening.enter env.special call (.fresh conn (env.openings index)) = (.ok (), entered) →
      moves entered last → settled (Opening.close last).2)
    (code : UserCode) (huses : code.Uses (fun _ ↦ True) opens) : Proc.Moves (fun before after ↦
      Proc.Extends moves settled before.openings after.openings) (code.run env) := by
  have hworld : ∀ world : World, Proc.Extends moves settled world.openings world.openings :=
    fun world ↦ .refl hrefl world.openings
  have hworlds : ∀ first middle last : World,
      Proc.Extends moves settled first.openings middle.openings →
      Proc.Extends moves settled middle.openings last.openings →
        Proc.Extends moves settled first.openings last.openings :=
    fun _ _ _ ↦ .trans htrans hstable
  refine run_calls hworld hworlds ?_ ?_ ?_ code huses (.inr fun conn world ↦ hworld world)
  · intro α handle body hbody
    exact .zoom (fun _ _ hextends ↦ hextends) (.onEntry hrefl (hcall hbody) _ handle)
  · intro args _ body hbody
    exact .withEntry_keeps hworlds _ _ (fun _ world ↦ hworld world) hbody
  · intro conn call hopens body hbody
    refine .bind hworlds (fun world ↦ hworld world) fun connection ↦ ?_
    refine .withEntry (show openingsPart.Lawful from fun _ _ ↦ rfl) hrefl _ _ ?_ ?_ hbody
    · exact fun index error after henter ↦ hrefused _ call index error after hopens henter
    · exact fun index entered last henter hmoves ↦ hleft _ call index entered last hopens henter hmoves

/-- The same, from the ways in which entering can end and the steps of an opening. -/
theorem run_openings {settled : Opening → Prop}
    (hstable : ∀ before after, settled before → Opening.Steps before after → settled after)
    (hrefused : ∀ conn fate error after,
      Opening.Entry env.special (.fresh conn fate) (.error error) after → settled after)
    (hleft : ∀ conn fate entered last, Opening.Entry env.special (.fresh conn fate) (.ok ()) entered →
      Opening.Steps entered last → settled (Opening.close last).2)
    (code : UserCode) : Proc.Moves (fun before after ↦
      Proc.Extends Opening.Steps settled before.openings after.openings) (code.run env) := by
  refine run_handles Opening.Steps.refl Opening.Steps.trans hstable (fun hbody ↦ hbody.steps) ?_ ?_ code
    code.uses_some
  · intro conn call index error after _ henter
    have hentry := Opening.enter_entry env.special call (.fresh conn (env.openings index))
    rw [henter] at hentry
    exact hrefused _ _ error after hentry
  · intro conn call index entered last _ henter hsteps
    have hentry := Opening.enter_entry env.special call (.fresh conn (env.openings index))
    rw [henter] at hentry
    exact hleft _ _ entered last hentry hsteps

/-- Every `connect` block that a run without `disconnect` begins ends settled, when a block that is refused
is settled, and a block that is left is. -/
theorem run_logins {settled : Login → Prop}
    (hrefused : ∀ args fate error after,
      Login.enter env.special args (.fresh fate) = (.error error, after) → settled after)
    (hleft : ∀ args fate entered, Login.enter env.special args (.fresh fate) = (.ok (), entered) →
      settled (Login.disconnect entered).2)
    {code : UserCode} (hnever : code.NeverDisconnects) : Proc.Moves (fun before after ↦
      Proc.Extends Eq settled before.logins after.logins) (code.run env) := by
  have hrefl : ∀ world : World, Proc.Extends Eq settled world.logins world.logins :=
    fun world ↦ .refl Eq.refl world.logins
  have htrans : ∀ first middle last : World, Proc.Extends Eq settled first.logins middle.logins →
      Proc.Extends Eq settled middle.logins last.logins →
        Proc.Extends Eq settled first.logins last.logins := by
    refine fun _ _ _ ↦ Proc.Extends.trans (@Eq.trans Login) ?_
    rintro login _ hsettled rfl
    exact hsettled
  refine run_calls hrefl htrans ?_ ?_ ?_ code code.uses_some (.inl hnever)
  · exact fun handle body _ world ↦ hrefl world
  · intro args _ body hbody
    refine .withEntry (show loginsPart.Lawful from fun _ _ ↦ rfl) Eq.refl _ _ ?_ ?_ hbody
    · exact fun index error after henter ↦ hrefused args _ error after henter
    · rintro index entered last henter rfl
      exact hleft args _ entered henter
  · intro conn call _ body hbody
    refine .bind htrans ?_ fun connection ↦ ?_
    · refine .zoom (fun _ _ hextends ↦ hextends) (.onEntry Eq.refl (fun login ↦ ?_) _ conn)
      unfold Login.connection
      split <;> rfl
    · exact .withEntry_keeps htrans _ _ (fun _ world ↦ hrefl world) hbody

end UserCode

end OpenVixDiskLib
