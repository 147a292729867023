import OpenVixDiskLib.Auth.Dialogue
import OpenVixDiskLib.Handle.World
import OpenVixDiskLib.Nfc.ClientRun

/-!
# What blocks leave behind

When a `connect` block has been left or refused, the connection for its thumbprint is closed and its session
has been logged out exactly once. When an `open` block has been left or refused, its authd socket is closed,
and so is its NFC socket, unless a step of `takeover_authd_socket` or `wrap_nfcssl_socket` that no handler
guards raised once `os.dup` had returned.

`UserCode.releases_iff` says this of all blocks that a program begins, inside each other and one after the
other, whatever each external step returns or raises and whatever the program does between them.
-/

set_option autoImplicit false
set_option relaxedAutoImplicit false

namespace OpenVixDiskLib

/-- The duplicated descriptor, if there is one, is closed by the socket that owns it. -/
def NfcConn.Released (nfc : NfcConn) : Prop :=
  nfc.dupped = true → if nfc.wrapped then nfc.tls.closed = true else nfc.raw.closed = true

/-- Once `os.dup` has returned, no step raised that no handler guards. -/
def Opening.Guarded (opening : Opening) : Prop :=
  opening.nfc.dupped = true → opening.nfc.route.Guarded opening.conn.nfcSsl

/-- The authd socket and the NFC socket are closed. -/
structure Opening.Released (opening : Opening) : Prop where
  authd : opening.authd.Released
  nfc : opening.nfc.Released

/-- The authd socket is closed, the NFC socket is closed exactly in a guarded block, and so is every block
with a handle. -/
structure Opening.Settled (opening : Opening) : Prop where
  authd : opening.authd.Released
  nfc : opening.nfc.Released ↔ opening.Guarded
  handle : opening.disk ≠ none → opening.Guarded

namespace Opening

/-- An entered block: it has a handle, whose closed disk has a closed socket, and the sockets belong to the
TLS sessions of its transport. -/
structure Live (opening : Opening) : Prop where
  disk : ∃ disk, opening.disk = some disk ∧
    (disk.closed = true → opening.nfcSock.closed = true)
  guarded : opening.nfc.route.Guarded opening.conn.nfcSsl
  authd_wrapped : opening.authd.wrapped = true
  nfc_wrapped : opening.nfc.wrapped = opening.conn.nfcSsl

variable {special : Char → List Char} {opening before after : Opening}

theorem nfcSock_withDisk (opening : Opening) (disk : NfcDisk) :
    (opening.withDisk disk).nfcSock = disk.sock :=
  NfcConn.sockPart_get_set _ _ _

theorem nfc_released_iff (hwrapped : opening.nfc.wrapped = opening.conn.nfcSsl) :
    opening.nfc.Released ↔ (opening.nfc.dupped = true → opening.nfcSock.closed = true) := by
  unfold NfcConn.Released nfcSock NfcConn.sockPart
  rw [hwrapped]
  cases opening.conn.nfcSsl <;> exact Iff.rfl

end Opening

section Steps

variable {before after : Opening}

/-- A new state of the disk moves neither the route nor the flags of the NFC connection. -/
theorem NfcConn.sockPart_set_flags (nfcSsl : Bool) (sock : Sock) (conn : NfcConn) :
    ((sockPart nfcSsl).set sock conn).dupped = conn.dupped ∧
      ((sockPart nfcSsl).set sock conn).wrapped = conn.wrapped ∧
      ((sockPart nfcSsl).set sock conn).route = conn.route := by
  cases nfcSsl <;> exact ⟨rfl, rfl, rfl⟩

/-- A socket that stays closed keeps its descriptor released. -/
theorem NfcConn.Released.set {nfcSsl : Bool} {conn : NfcConn} {sock : Sock} (hreleased : conn.Released)
    (hclosed : ((sockPart nfcSsl).get conn).closed = true → sock.closed = true) :
    ((sockPart nfcSsl).set sock conn).Released := by
  obtain ⟨hdupped, hwrapped, -⟩ := sockPart_set_flags nfcSsl sock conn
  intro hdup
  have hbefore := hreleased (hdupped.symm.trans hdup)
  rw [hwrapped]
  rcases hwrap : conn.wrapped with _ | _
  all_goals
    rw [hwrap] at hbefore
    cases nfcSsl
  · exact hclosed hbefore
  · exact hbefore
  · exact hbefore
  · exact hclosed hbefore

theorem AuthdConn.released_close (conn : AuthdConn) (hwrapped : conn.wrapped = true) :
    ({ conn with authd := { conn.authd with closed := true } } : AuthdConn).Released := by
  intro _
  rw [if_pos hwrapped]

theorem AuthdConn.Released.closeAuthd {conn : AuthdConn} (hreleased : conn.Released) :
    ({ conn with authd := { conn.authd with closed := true } } : AuthdConn).Released := by
  intro hconnected
  have hbefore := hreleased hconnected
  rcases hwrapped : conn.wrapped with _ | _
  · rw [hwrapped] at hbefore
    exact hbefore
  · rfl

/-- Nothing that can happen to a settled block unsettles it. -/
theorem Opening.Settled.step (hstep : before.Step after) (hsettled : before.Settled) :
    after.Settled := by
  cases hstep with
  | @disk disk last hdisk hages =>
    obtain ⟨hdupped, hwrapped, hroute⟩ :=
      NfcConn.sockPart_set_flags before.conn.nfcSsl last.sock before.nfc
    have hguarded : before.Guarded := hsettled.handle (by rw [hdisk]; exact Option.some_ne_none _)
    have hafter : (before.withDisk last).Guarded := by
      intro hdup
      have hroute' := hguarded (hdupped.symm.trans hdup)
      rw [← hroute] at hroute'
      exact hroute'
    refine ⟨hsettled.authd, iff_of_true ?_ hafter, fun _ ↦ hafter⟩
    exact (hsettled.nfc.mpr hguarded).set hages.sock
  | authd => exact ⟨hsettled.authd.closeAuthd, hsettled.nfc, hsettled.handle⟩

/-- A new state of its disk leaves an entered block entered, when a closed disk has a closed socket. -/
theorem Opening.Live.withDisk {last : NfcDisk} (hlive : before.Live)
    (hsound : last.closed = true → last.sock.closed = true) : (before.withDisk last).Live := by
  obtain ⟨-, hwrapped, hroute⟩ := NfcConn.sockPart_set_flags before.conn.nfcSsl last.sock before.nfc
  refine ⟨⟨last, rfl, fun hclosed ↦ ?_⟩, ?_, hlive.authd_wrapped, hwrapped.trans hlive.nfc_wrapped⟩
  · rw [nfcSock_withDisk]
    exact hsound hclosed
  · change NfcRoute.Guarded before.conn.nfcSsl
      ((NfcConn.sockPart before.conn.nfcSsl).set last.sock before.nfc).route
    rw [hroute]
    exact hlive.guarded

/-- Nothing that can happen to an entered block takes its handle away. -/
theorem Opening.Live.step (hstep : before.Step after) (hlive : before.Live) : after.Live := by
  cases hstep with
  | @disk disk last hdisk hages =>
    obtain ⟨disk', hdisk', hsound⟩ := hlive.disk
    obtain rfl := Option.some.inj (hdisk.symm.trans hdisk')
    exact hlive.withDisk (hages.sound hsound)
  | authd => exact ⟨hlive.disk, hlive.guarded, hlive.authd_wrapped, hlive.nfc_wrapped⟩

/-- An entered block that is left is settled. -/
theorem Opening.Live.close_settled (hlive : before.Live) : (Opening.close before).2.Settled := by
  obtain ⟨disk, hdisk, hsound⟩ := hlive.disk
  have hclosed := (NfcDisk.close_closes { disk with sock := before.nfcSock }).2 hsound
  have hleft : (Opening.onDisk NfcDisk.close before).2 =
      before.withDisk (NfcDisk.close { disk with sock := before.nfcSock }).2 := by
    simp only [Opening.onDisk, hdisk]
  rw [Opening.close_snd, hleft]
  generalize (NfcDisk.close { disk with sock := before.nfcSock }).2 = last at hclosed
  have hafter := hlive.withDisk fun _ ↦ hclosed
  refine ⟨AuthdConn.released_close _ hafter.authd_wrapped, iff_of_true ?_ fun _ ↦ hafter.guarded,
    fun _ _ ↦ hafter.guarded⟩
  refine (Opening.nfc_released_iff hafter.nfc_wrapped).mpr fun _ ↦ ?_
  rw [Opening.nfcSock_withDisk]
  exact hclosed

end Steps

/-! ### Entering -/

section Enter

variable {special : Char → List Char} {ticket : HostServiceTicket} {allowUntrusted nfcSsl : Bool}
  {conn : Connection} {fate : OpeningFate}

/-- `connect_authd` that raises leaves its descriptor closed. -/
theorem AuthdOutcome.released {start after : AuthdConn} {error : PyError}
    (houtcome : AuthdOutcome special ticket allowUntrusted nfcSsl start (.error error) after)
    (hconnected : start.connected = false) (hwrapped : start.wrapped = false) : after.Released := by
  cases houtcome with
  | refused => exact fun h ↦ absurd (hconnected.symm.trans h) Bool.false_ne_true
  | ungreeted htook =>
    intro _
    change if start.wrapped then _ else _
    rw [hwrapped, if_neg Bool.false_ne_true]
  | untrusted hbanner htook hfails => exact fun _ ↦ rfl
  | stopped hbanner htook hpasses htalk => exact fun _ ↦ rfl

theorem AuthdOutcome.wrapped {start after : AuthdConn}
    (houtcome : AuthdOutcome special ticket allowUntrusted nfcSsl start (.ok ()) after) :
    after.wrapped = true := by
  cases houtcome with
  | done hbanner htook hpasses htalk => rfl

/-- `open_disk` that raises leaves the duplicated descriptor closed exactly in a guarded block. -/
theorem NfcOutcome.released_iff {start after : NfcConn} {error : PyError}
    (houtcome : NfcOutcome nfcSsl start (.error error) after) (hdupped : start.dupped = false)
    (hwrapped : start.wrapped = false) (hopen : start.raw.closed = false) :
    after.Released ↔ (after.dupped = true → after.route.Guarded nfcSsl) := by
  cases houtcome with
  | unconnected hconnected =>
    cases hconnected with
    | refused =>
      refine iff_of_true (fun h ↦ ?_) fun h ↦ ?_
      · exact absurd (hdupped.symm.trans h) Bool.false_ne_true
      · exact absurd (hdupped.symm.trans h) Bool.false_ne_true
    | leaked hunguarded =>
      refine iff_of_false (fun hreleased ↦ ?_) fun hguarded ↦ hunguarded (hguarded rfl)
      have hclosed := hreleased rfl
      change if start.wrapped then _ else start.raw.closed = true at hclosed
      rw [hwrapped, if_neg Bool.false_ne_true, hopen] at hclosed
      exact Bool.false_ne_true hclosed
    | unwrapped hguarded =>
      refine iff_of_true (fun _ ↦ ?_) fun _ ↦ hguarded
      change if start.wrapped then _ else _
      rw [hwrapped, if_neg Bool.false_ne_true]
  | failed hguarded =>
    refine iff_of_true ?_ fun _ ↦ ?_
    · intro _
      cases nfcSsl
      · change if start.wrapped || false then _ else _
        rw [hwrapped, Bool.or_false, if_neg Bool.false_ne_true]
        rfl
      · change if start.wrapped || true then _ else _
        rw [Bool.or_true, if_pos rfl]
        rfl
    · cases nfcSsl
      · exact hguarded
      · exact hguarded

/-- A refused block is settled. -/
theorem Opening.Entry.settled {error : PyError} {after : Opening}
    (hentry : Opening.Entry special (.fresh conn fate) (.error error) after) : after.Settled := by
  have hunused : ((Opening.fresh conn fate).nfc.Released ↔ (Opening.fresh conn fate).Guarded) :=
    iff_of_true (fun h ↦ absurd h Bool.false_ne_true) fun h ↦ absurd h Bool.false_ne_true
  cases hentry with
  | refused => exact ⟨fun h ↦ absurd h Bool.false_ne_true, hunused, fun h ↦ absurd rfl h⟩
  | unauthorized hauthd => exact ⟨hauthd.released rfl rfl, hunused, fun h ↦ absurd rfl h⟩
  | unopened hauthd hnfc =>
    exact ⟨AuthdConn.released_close _ hauthd.wrapped, hnfc.released_iff rfl rfl rfl,
      fun h ↦ absurd rfl h⟩

/-- An entered block has a handle. -/
theorem Opening.Entry.live {after : Opening}
    (hentry : Opening.Entry special (.fresh conn fate) (.ok ()) after) : after.Live := by
  cases hentry with
  | @opened ticket authd nfc disk hauthd hnfc =>
    cases hnfc with
    | opened hguarded hopen =>
      obtain ⟨-, hwrapped, hroute⟩ := NfcConn.sockPart_set_flags conn.nfcSsl disk.sock
        { (Opening.fresh conn fate).nfc with dupped := true, wrapped := false || conn.nfcSsl }
      refine ⟨⟨disk, rfl, fun hclosed ↦ ?_⟩, ?_, hauthd.wrapped, ?_⟩
      · exact absurd (hopen.symm.trans hclosed) Bool.false_ne_true
      · exact (congrArg (NfcRoute.Guarded conn.nfcSsl) hroute).mpr hguarded
      · exact hwrapped.trans (Bool.false_or _)

end Enter

/-! ### Programs -/

namespace UserCode

/-- Every block the program begins has released what it acquired. -/
structure Releases (env : Environment) (world : World) (code : UserCode) : Prop where
  logins : ∀ (index : ℕ) (login : Login), world.logins.length ≤ index →
    (code.run env world).2.logins[index]? = some login → login.Released
  openings : ∀ (index : ℕ) (opening : Opening), world.openings.length ≤ index →
    (code.run env world).2.openings[index]? = some opening → opening.Released

/-- Every `open` block the program begins is guarded. -/
def Guarded (env : Environment) (world : World) (code : UserCode) : Prop :=
  ∀ (index : ℕ) (opening : Opening), world.openings.length ≤ index →
    (code.run env world).2.openings[index]? = some opening → opening.Guarded

/-- Every `open` block a program begins ends settled. -/
theorem settles (env : Environment) (code : UserCode) : Proc.Moves (fun before after ↦
    Proc.Extends Opening.Steps Opening.Settled before.openings after.openings) (code.run env) := by
  refine run_openings ?_ ?_ ?_ code
  · exact fun _ _ hsettled hsteps ↦ hsteps.keeps (fun _ _ ↦ Opening.Settled.step) hsettled
  · exact fun _ _ _ _ hentry ↦ hentry.settled
  · intro conn fate entered last hentry hsteps
    exact (hsteps.keeps (fun _ _ ↦ Opening.Live.step) hentry.live).close_settled

/-- Every `connect` block a program without `disconnect` begins releases what it acquired. -/
theorem logs_out (env : Environment) {code : UserCode} (hnever : code.NeverDisconnects) :
    Proc.Moves (fun before after ↦ Proc.Extends Eq Login.Released before.logins after.logins)
      (code.run env) := by
  refine run_logins ?_ ?_ hnever
  · intro args fate error after henter
    have houtcome := Login.enter_outcome env.special args fate
    rw [henter] at houtcome
    exact houtcome
  · intro args fate entered henter
    have houtcome := Login.enter_outcome env.special args fate
    rw [henter] at houtcome
    exact Login.disconnect_released houtcome.1 houtcome.2.1 houtcome.2.2

/-- A program that leaves the logout to its blocks releases everything exactly when its `open` blocks are
guarded. -/
theorem releases_iff (env : Environment) (world : World) {code : UserCode}
    (hnever : code.NeverDisconnects) : code.Releases env world ↔ code.Guarded env world := by
  have hsettled := (settles env code world).settled
  constructor
  · intro hreleases index opening hnew hopening
    exact (hsettled index opening hnew hopening).nfc.mp (hreleases.openings index opening hnew hopening).nfc
  · intro hguarded
    refine ⟨(logs_out env hnever world).settled, fun index opening hnew hopening ↦ ?_⟩
    have hopening' := hsettled index opening hnew hopening
    exact ⟨hopening'.authd, hopening'.nfc.mpr (hguarded index opening hnew hopening)⟩

end UserCode

/-! ### A descriptor that is not closed -/

/-- A socket that meets one segment. -/
def SockFate.meeting (stream : Bytes) : SockFate :=
  ⟨Arrival.segment stream, none, none⟩

/-- A certificate-less TLS route on which every step returns. -/
def openAuthdRoute : AuthdRoute :=
  ⟨.ok (), .ok (), .ok (), .ok none⟩

/-- A management server that lets everybody in. -/
def willingLogin : LoginFate where
  route := ⟨.ok (), .ok (), .ok (), .ok ()⟩
  probe := openAuthdRoute
  probeRaw := .meeting []
  probeTls := .meeting []

/-- A takeover on which every step returns. -/
def openNfcRoute : NfcRoute :=
  ⟨.ok (), .ok (), .ok (), .ok (), .ok (), .ok (), none⟩

/-- A host that opens a disk, on a given route. -/
def willingOpening (ticket : HostServiceTicket) (nfc : NfcRoute) : OpeningFate where
  service := ⟨.ok (), .ok ⟨"vm-1", "esx", []⟩, fun _ ↦ .ok ticket⟩
  authd := openAuthdRoute
  authdRaw := .meeting (asciiBytes "220 ready\n")
  authdTls := .meeting (asciiBytes "220 hello\n200 ok\n200 Connect\n")
  nfc := nfc
  nfcRaw := .meeting openingReplies
  nfcTls := .meeting openingReplies

/-- The outside for one opening. -/
def willingEnvironment (ticket : HostServiceTicket) (nfc : NfcRoute) : Environment where
  special := fun char ↦ [char]
  library := FastLz.storing
  logins := fun _ ↦ willingLogin
  openings := fun _ ↦ willingOpening ticket nfc

/-- `connect`, `open`, and nothing else. -/
def openOnce (transportModes : String) (allowUntrusted : Bool) : UserCode :=
  .connect ⟨"vc", none, some "moref=vm-1", true, some transportModes, 443, allowUntrusted⟩
    (fun conn ↦ .openDisk conn ⟨"[datastore0] vm/vm.vmdk", 4, nfcAioBufferSize, nfcAioBufferCount⟩
      (fun _ ↦ .finish (.ok ())) .finish) .finish

theorem openOnce_neverDisconnects (transportModes : String) (allowUntrusted : Bool) :
    (openOnce transportModes allowUntrusted).NeverDisconnects :=
  ⟨fun _ ↦ ⟨fun _ ↦ trivial, fun _ ↦ trivial⟩, fun _ ↦ trivial⟩

theorem UserCode.releases_iff_openOnce :
    (openOnce "nbd" true).Releases (willingEnvironment bareTicket openNfcRoute) ⟨[], []⟩ ↔
      (openOnce "nbd" true).Guarded (willingEnvironment bareTicket openNfcRoute) ⟨[], []⟩ :=
  UserCode.releases_iff (willingEnvironment bareTicket openNfcRoute) ⟨[], []⟩
    (openOnce_neverDisconnects "nbd" true)

/-- When `setsockopt` raises behind `os.dup`, nothing closes the new descriptor. -/
theorem UserCode.leaks_duplicate :
    ¬ (openOnce "nbd" true).Releases (willingEnvironment bareTicket
      { openNfcRoute with nodelay := .error ⟨.osError, "Invalid argument"⟩ }) ⟨[], []⟩ := by
  intro hreleases
  have hleft : ((openOnce "nbd" true).run (willingEnvironment bareTicket
      { openNfcRoute with nodelay := .error ⟨.osError, "Invalid argument"⟩ }) ⟨[], []⟩).2.openings[0]?.map
      (fun opening ↦ (opening.nfc.dupped, opening.nfc.wrapped, opening.nfc.raw.closed)) =
        some (true, false, false) := by
    decide +kernel
  obtain ⟨opening, hopening, hflags⟩ := Option.map_eq_some_iff.mp hleft
  simp only [Prod.mk.injEq] at hflags
  obtain ⟨hdupped, hwrapped, hopen⟩ := hflags
  have hclosed := (hreleases.openings 0 opening le_rfl hopening).nfc hdupped
  rw [hwrapped, if_neg Bool.false_ne_true, hopen] at hclosed
  exact Bool.false_ne_true hclosed

end OpenVixDiskLib
