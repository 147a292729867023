import OpenVixDiskLib.Base.Tiling
import OpenVixDiskLib.Nfc.ReadRun

/-!
# The fragments of a run

`Reply` cuts a stream into the fragments of one reply: frames of the opId until their lengths reach
the request. It is a reading of the stream alone, and there is at most one (`Reply.unique`).

A run of the read loop accepts the fragments of a reply (`ReadRun.reply`), all of them acceptable
(`ReadRun.acceptable`). It ends with the locals of `ReadLocals.afterAll`, and its buffer is
`storeAll` of the decoded chunks in a plain read (`ReadRun.final_plain`) and the extras one after
the other in a skip read (`ReadRun.final_skip`). Conversely a reply whose fragments are acceptable
and can be placed is a run (`ReadRun.of_reply`).
-/

set_option autoImplicit false
set_option relaxedAutoImplicit false

namespace OpenVixDiskLib

open NfcDisk

/-! ### Replies -/

/-- The bytes are the frames of `fragments`, and their lengths, added to `filled`, reach the request
with the last fragment and not before. -/
inductive Reply (opId length : ℕ) : ℕ → List Fragment → Bytes → Prop
  | done {filled : ℕ} (hfilled : length ≤ filled) : Reply opId length filled [] []
  | frame {filled : ℕ} {fragment : Fragment} {fragments : List Fragment} {bytes rest : Bytes}
      (hgo : filled < length) (hframe : ReplyFrame opId fragment bytes)
      (hrest : Reply opId length (filled + fragment.chunkLen) fragments rest) :
      Reply opId length filled (fragment :: fragments) (bytes ++ rest)

/-- A stream starts with at most one reply. -/
theorem Reply.unique {opId length filled : ℕ} {fragments fragments' : List Fragment}
    {taken taken' rest rest' : Bytes} (hfirst : Reply opId length filled fragments taken)
    (hsecond : Reply opId length filled fragments' taken')
    (hstream : taken ++ rest = taken' ++ rest') :
    fragments = fragments' ∧ taken = taken' ∧ rest = rest' := by
  induction hfirst generalizing fragments' taken' with
  | done hdone =>
    cases hsecond with
    | done _ => exact ⟨rfl, rfl, hstream⟩
    | frame hgo _ _ => omega
  | frame hgo hframe _ ih =>
    cases hsecond with
    | done hdone => omega
    | frame _ hframe' hrest' =>
      simp only [List.append_assoc] at hstream
      obtain ⟨rfl, rfl, htail⟩ := hframe.unique hframe' hstream
      obtain ⟨rfl, rfl, hrest⟩ := ih hrest' htail
      exact ⟨rfl, rfl, hrest⟩

/-- The range of the request a fragment stands for. -/
def Fragment.span (fragment : Fragment) : Finset ℕ :=
  Finset.Ico fragment.dest (fragment.dest + fragment.chunkLen)

@[simp] theorem Fragment.card_span (fragment : Fragment) :
    fragment.span.card = fragment.chunkLen := by
  rw [Fragment.span, Nat.card_Ico, Nat.add_sub_cancel_left]

theorem Fragment.mem_span {fragment : Fragment} {index : ℕ} :
    index ∈ fragment.span ↔
      fragment.dest ≤ index ∧ index < fragment.dest + fragment.chunkLen :=
  Finset.mem_Ico

theorem map_card_span (fragments : List Fragment) :
    (fragments.map Fragment.span).map Finset.card = fragments.map Fragment.chunkLen := by
  rw [List.map_map]
  exact List.map_congr_left fun fragment _ ↦ fragment.card_span

/-! ### The locals of a run -/

/-- The locals after a list of fragments. -/
def ReadLocals.afterAll (locals : ReadLocals) (skipDecompression : Bool)
    (fragments : List Fragment) : ReadLocals :=
  fragments.foldl (fun locals fragment ↦ locals.after skipDecompression fragment) locals

/-- The bytes of the extras of some fragments. -/
def extraBytes (fragments : List Fragment) : ℕ :=
  (fragments.map fun fragment ↦ fragment.extra.length).sum

/-- The table of a skip read whose extras are packed from an offset on. -/
def fragmentTable : ℕ → List Fragment → List ReadFragment
  | _, [] => []
  | offset, fragment :: fragments =>
    ⟨fragment.dest, fragment.chunkLen, fragment.ctype, offset, fragment.extra.length⟩ ::
      fragmentTable (offset + fragment.extra.length) fragments

section Locals

variable (locals : ReadLocals) (skipDecompression : Bool) (fragment : Fragment)
  (fragments : List Fragment)

@[simp] theorem extraBytes_cons : extraBytes (fragment :: fragments) =
    fragment.extra.length + extraBytes fragments := by
  simp [extraBytes]

theorem ReadLocals.afterAll_cons : locals.afterAll skipDecompression (fragment :: fragments) =
    (locals.after skipDecompression fragment).afterAll skipDecompression fragments :=
  rfl

theorem ReadLocals.afterAll_wireBytes : (locals.afterAll skipDecompression fragments).wireBytes =
    locals.wireBytes + extraBytes fragments := by
  induction fragments generalizing locals with
  | nil => rfl
  | cons fragment fragments ih =>
    rw [ReadLocals.afterAll_cons, ih, extraBytes_cons, ← Nat.add_assoc]
    rfl

theorem ReadLocals.afterAll_fragments : (locals.afterAll true fragments).fragments =
    locals.fragments ++ fragmentTable locals.packedOffset fragments := by
  induction fragments generalizing locals with
  | nil => exact (List.append_nil _).symm
  | cons fragment fragments ih =>
    rw [ReadLocals.afterAll_cons, ih, fragmentTable]
    simp only [ReadLocals.after, ReadLocals.accept, if_true, List.append_assoc, List.cons_append,
      List.nil_append]

end Locals

/-! ### The buffer of a run -/

/-- A buffer with the decoded chunks of some fragments stored at their places, in order. -/
def storeAll (library : FastLzLibrary) (fragments : List Fragment) (buffer : Bytes) : Bytes :=
  fragments.foldl
    (fun buffer fragment ↦ buffer.splice fragment.dest ((fragment.decode library).getD [])) buffer

variable {library : FastLzLibrary} {length opId : ℕ} {skipDecompression : Bool}
  {locals last : ReadLocals} {buffer final taken : Bytes} {fragments : List Fragment}

/-- A run takes the bytes of a reply. -/
theorem ReadRun.reply
    (hrun : ReadRun library length opId skipDecompression locals buffer fragments taken last final) :
    Reply opId length locals.filled fragments taken := by
  induction hrun with
  | done hfilled => exact .done hfilled
  | accept hgo hframe _ _ _ ih => exact .frame hgo hframe ih

theorem ReadRun.last_eq
    (hrun : ReadRun library length opId skipDecompression locals buffer fragments taken last final) :
    last = locals.afterAll skipDecompression fragments := by
  induction hrun with
  | done _ => rfl
  | accept _ _ _ _ _ ih => exact ih

/-- The lengths of the accepted fragments reach the request. -/
theorem ReadRun.length_le
    (hrun : ReadRun library length opId skipDecompression locals buffer fragments taken last final) :
    length ≤ locals.filled + (fragments.map Fragment.chunkLen).sum := by
  induction hrun with
  | done hfilled => simpa using hfilled
  | accept _ _ _ _ _ ih =>
    rw [List.map_cons, List.sum_cons, ← Nat.add_assoc]
    exact ih

/-- Every accepted fragment passes its checks, and no two start at one place. -/
theorem ReadRun.acceptable
    (hrun : ReadRun library length opId skipDecompression locals buffer fragments taken last final) :
    (∀ fragment ∈ fragments, fragment.Acceptable length locals.seen) ∧
      fragments.Pairwise fun first second ↦ first.dest ≠ second.dest := by
  induction hrun with
  | done _ => exact ⟨by simp, .nil⟩
  | @accept locals last fragment fragments _ _ _ _ _ _ _ _ hacceptable _ _ ih =>
    obtain ⟨hall, hpairwise⟩ := ih
    have hfresh : ∀ later ∈ fragments, later.dest ≠ fragment.dest ∧ later.dest ∉ locals.seen := by
      intro later hlater
      have hnew : later.dest ∉ fragment.dest :: locals.seen := (hall later hlater).fresh
      simpa using hnew
    refine ⟨?_, .cons (fun later hlater ↦ (hfresh later hlater).1.symm) hpairwise⟩
    rw [List.forall_mem_cons]
    exact ⟨hacceptable, fun later hlater ↦ ⟨(hfresh later hlater).2, (hall later hlater).nonempty,
      (hall later hlater).bounded⟩⟩

/-- In a plain read every accepted fragment decodes, and the buffer is their chunks stored in
order. -/
theorem ReadRun.final_plain
    (hrun : ReadRun library length opId false locals buffer fragments taken last final) :
    (∀ fragment ∈ fragments, (fragment.decode library).isSome) ∧
      final = storeAll library fragments buffer := by
  induction hrun with
  | done _ => exact ⟨by simp, rfl⟩
  | accept _ _ _ hplacement _ ih =>
    rw [Fragment.placement, if_neg (by simp), Option.map_eq_some_iff] at hplacement
    obtain ⟨chunk, hdecode, hpair⟩ := hplacement
    simp only [Prod.mk.injEq] at hpair
    obtain ⟨rfl, rfl⟩ := hpair
    rw [List.forall_mem_cons, hdecode]
    refine ⟨⟨rfl, ih.1⟩, ?_⟩
    rw [ih.2, storeAll, storeAll, List.foldl_cons, hdecode, Option.getD_some]

/-- In a skip read the extras fit the request, and the buffer is the extras packed in order. -/
theorem ReadRun.final_skip (hroom : length ≤ buffer.length)
    (hpacked : locals.packedOffset ≤ length)
    (hrun : ReadRun library length opId true locals buffer fragments taken last final) :
    locals.packedOffset + extraBytes fragments ≤ length ∧
      final = buffer.splice locals.packedOffset (fragments.flatMap Fragment.extra) := by
  induction hrun with
  | done _ => exact ⟨hpacked, (List.splice_nil _ _).symm⟩
  | @accept locals last fragment fragments bytes chunk rest buffer final offset _ _ _ hplacement _
      ih =>
    rw [Fragment.placement, if_pos rfl] at hplacement
    split_ifs at hplacement with hfits
    simp only [Option.some.injEq, Prod.mk.injEq] at hplacement
    obtain ⟨rfl, rfl⟩ := hplacement
    obtain ⟨htotal, hfinal⟩ := ih
      (by rw [List.length_splice (hfits.trans hroom)]; exact hroom) hfits
    refine ⟨?_, ?_⟩
    · rw [extraBytes_cons, ← Nat.add_assoc]
      exact htotal
    · rw [hfinal, List.flatMap_cons]
      exact List.splice_splice_append (hfits.trans hroom)

/-- Every fragment of a reply has a frame. -/
theorem Reply.frames {filled : ℕ} (hreply : Reply opId length filled fragments taken) :
    ∀ fragment ∈ fragments, ∃ bytes, ReplyFrame opId fragment bytes := by
  induction hreply with
  | done _ => simp
  | frame _ hframe _ ih => exact List.forall_mem_cons.mpr ⟨⟨_, hframe⟩, ih⟩

/-- The fragments decode to chunks of their lengths, which lie in the buffer. -/
def Storable (library : FastLzLibrary) (fragments : List Fragment) (size : ℕ) : Prop :=
  ∀ fragment ∈ fragments, ∃ chunk, fragment.decode library = some chunk ∧
    chunk.length = fragment.chunkLen ∧ fragment.dest + fragment.chunkLen ≤ size

theorem storeAll_cons (fragment : Fragment) :
    storeAll library (fragment :: fragments) buffer =
      storeAll library fragments
        (buffer.splice fragment.dest ((fragment.decode library).getD [])) :=
  rfl

/-- Storing leaves every position outside the fragments' ranges as it was. -/
theorem getElem?_storeAll_of_notMem {index : ℕ}
    (hstorable : Storable library fragments buffer.length)
    (hindex : ∀ fragment ∈ fragments, index ∉ fragment.span) :
    (storeAll library fragments buffer)[index]? = buffer[index]? := by
  induction fragments generalizing buffer with
  | nil => rfl
  | cons fragment fragments ih =>
    obtain ⟨⟨chunk, hdecode, hlength, hfits⟩, htail⟩ := List.forall_mem_cons.mp hstorable
    obtain ⟨hout, hlater⟩ := List.forall_mem_cons.mp hindex
    have hchunk : fragment.dest + chunk.length ≤ buffer.length := by rw [hlength]; exact hfits
    have hsplice := List.length_splice hchunk
    rw [storeAll_cons, hdecode, Option.getD_some, ih (by rw [hsplice]; exact htail) hlater]
    rw [Fragment.mem_span] at hout
    rcases Nat.lt_or_ge index fragment.dest with hbefore | hfrom
    · exact List.getElem?_splice_of_lt (by omega) hbefore
    · exact List.getElem?_splice_of_le hchunk (by omega)

/-- Where no two ranges overlap, storing puts every chunk at its place. -/
theorem getElem?_storeAll_of_mem {index : ℕ} {fragment : Fragment}
    (hstorable : Storable library fragments buffer.length)
    (hdisjoint : (fragments.map Fragment.span).Pairwise Disjoint) (hmem : fragment ∈ fragments)
    (hindex : index ∈ fragment.span) :
    (storeAll library fragments buffer)[index]? =
      ((fragment.decode library).getD [])[index - fragment.dest]? := by
  induction fragments generalizing buffer with
  | nil => simp at hmem
  | cons head fragments ih =>
    obtain ⟨⟨chunk, hdecode, hlength, hfits⟩, htail⟩ := List.forall_mem_cons.mp hstorable
    rw [List.map_cons, List.pairwise_cons] at hdisjoint
    obtain ⟨hhead, hrest⟩ := hdisjoint
    have hchunk : head.dest + chunk.length ≤ buffer.length := by rw [hlength]; exact hfits
    have hsplice := List.length_splice hchunk
    rw [storeAll_cons, hdecode, Option.getD_some]
    rcases List.mem_cons.mp hmem with rfl | hlater
    · rw [getElem?_storeAll_of_notMem (by rw [hsplice]; exact htail), hdecode, Option.getD_some]
      · obtain ⟨hfrom, hto⟩ := Fragment.mem_span.mp hindex
        exact List.getElem?_splice_of_mem (by omega) hfrom (by omega)
      · intro later hmem
        exact Finset.disjoint_left.mp (hhead later.span (List.mem_map_of_mem hmem)) hindex
    · exact ih (by rw [hsplice]; exact htail) hrest hlater

/-- The chunks a plain read accepted are storable. -/
theorem ReadRun.storable (hroom : length ≤ buffer.length)
    (hrun : ReadRun library length opId false locals buffer fragments taken last final) :
    Storable library fragments buffer.length := by
  intro fragment hmem
  obtain ⟨chunk, hchunk⟩ := Option.isSome_iff_exists.mp (hrun.final_plain.1 fragment hmem)
  obtain ⟨bytes, hframe⟩ := hrun.reply.frames fragment hmem
  exact ⟨chunk, hchunk, Fragment.decode_length hframe hchunk,
    (hrun.acceptable.1 fragment hmem).bounded.trans hroom⟩

/-- The fragments can be placed: they decode, or their extras fit the request. -/
def Placeable (library : FastLzLibrary) (length : ℕ) (skipDecompression : Bool)
    (packedOffset : ℕ) (fragments : List Fragment) : Prop :=
  if skipDecompression then packedOffset + extraBytes fragments ≤ length
  else ∀ fragment ∈ fragments, (fragment.decode library).isSome

/-- A reply whose fragments are acceptable and can be placed is a run. -/
theorem ReadRun.of_reply (buffer : Bytes)
    (hreply : Reply opId length locals.filled fragments taken)
    (hacceptable : ∀ fragment ∈ fragments, fragment.Acceptable length locals.seen)
    (hdistinct : fragments.Pairwise fun first second ↦ first.dest ≠ second.dest)
    (hplaceable : Placeable library length skipDecompression locals.packedOffset fragments) :
    ∃ last final,
      ReadRun library length opId skipDecompression locals buffer fragments taken last final := by
  generalize hfilled : locals.filled = filled at hreply
  induction hreply generalizing locals buffer with
  | done hdone => exact ⟨locals, buffer, .done (by rw [hfilled]; exact hdone)⟩
  | @frame filled fragment fragments bytes rest hgo hframe _ ih =>
    subst hfilled
    obtain ⟨hhead, htail⟩ := List.forall_mem_cons.mp hacceptable
    obtain ⟨hnew, hlater⟩ := List.pairwise_cons.mp hdistinct
    have hplacement : ∃ placed, fragment.placement library length skipDecompression
        locals.packedOffset = some placed := by
      unfold Placeable at hplaceable
      by_cases hskip : skipDecompression = true
      · rw [if_pos hskip, extraBytes_cons] at hplaceable
        rw [Fragment.placement, if_pos hskip, if_pos (by omega)]
        exact ⟨_, rfl⟩
      · rw [if_neg hskip] at hplaceable
        obtain ⟨chunk, hchunk⟩ := Option.isSome_iff_exists.mp
          (hplaceable fragment List.mem_cons_self)
        rw [Fragment.placement, if_neg hskip, hchunk]
        exact ⟨_, rfl⟩
    obtain ⟨⟨offset, chunk⟩, hplacement⟩ := hplacement
    have hrest : Placeable library length skipDecompression
        (locals.after skipDecompression fragment).packedOffset fragments := by
      unfold Placeable at hplaceable ⊢
      by_cases hskip : skipDecompression = true
      · rw [if_pos hskip, extraBytes_cons] at hplaceable
        rw [if_pos hskip]
        simp only [ReadLocals.after, ReadLocals.accept, if_pos hskip]
        omega
      · rw [if_neg hskip] at hplaceable ⊢
        exact fun later hmem ↦ hplaceable later (List.mem_cons_of_mem _ hmem)
    obtain ⟨last, final, hrun⟩ := ih (buffer.splice offset chunk)
      (fun later hmem ↦ ⟨by
          change later.dest ∉ fragment.dest :: locals.seen
          rw [List.mem_cons, not_or]
          exact ⟨(hnew later hmem).symm, (htail later hmem).fresh⟩,
        (htail later hmem).nonempty, (htail later hmem).bounded⟩) hlater hrest rfl
    exact ⟨last, final, .accept hgo hframe hhead hplacement hrun⟩

end OpenVixDiskLib
