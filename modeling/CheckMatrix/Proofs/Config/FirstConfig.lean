/-
What writing a first configuration leaves behind.

Three steps may fail, and none is taken back.  Refusing to replace a file comes before everything
else and leaves the tree alone; making directories may end half-way; and when the file cannot be
written, the directories made for it stay (`Sample.first_config_traces`).  But that is all there is
of a trace: whatever was there is unchanged, and what is new are directories that were missing on
the way (`RoomMade`).

When the configuration is written, the path leads to it and no other entry was changed (`Started`),
unless the path is that of the null device, which keeps nothing.  Without leave to replace anything
there was nothing at the path before.  It may still lead to a file that was there under another
path, if it comes back by `..` from a directory that had to be made.
-/
import CheckMatrix.Init
import CheckMatrix.Proofs.FileTree.Making

namespace CheckMatrix

open FileTree

variable {t after : FileTree} {output : Path} {l : Location}

/-! ### Making room -/

/-- No directory has to be made for a file: it lies in none, or in one that is there. -/
def HasRoom (t : FileTree) (output : Path) : Prop :=
  ∀ dir, output.parent? = some dir → dir.isEmpty = true ∨ t.pathExists dir = true

/-- A location of a directory that was made on the way to a file. -/
def OnTheWayTo (output : Path) (after : FileTree) (l : Location) : Prop :=
  ∃ dir q, output.parent? = some dir ∧ OnTheWay dir q ∧ after.find q = .ok (l, .dir)

/-- Everything is as before but for directories that were missing on the way to a file. -/
structure RoomMade (t : FileTree) (output : Path) (after : FileTree) : Prop where
  grown : t.Grown after
  onTheWay : ∀ l, t.get? l = none → after.get? l ≠ none → OnTheWayTo output after l
  still : HasRoom t output → after = t

theorem RoomMade.refl (t : FileTree) (output : Path) : RoomMade t output t :=
  ⟨.refl t, fun _ hnone hsome => absurd hnone hsome, fun _ => rfl⟩

theorem RoomMade.of_made {dir : Path} (h : t.MadeOnTheWay dir after)
    (hparent : output.parent? = some dir) (hroom : ¬ HasRoom t output) : RoomMade t output after := by
  refine ⟨h.grown, fun l hnone hsome => ?_, fun hhas => absurd hhas hroom⟩
  obtain ⟨q, hq, hfind⟩ := h.onTheWay l hnone hsome
  exact ⟨dir, q, hparent, hq, hfind⟩

/-- Room is there, or the directories above the file are made. -/
inductive Rooming (t : FileTree) (output : Path) : FileTree → Except InitError Unit → Prop
  | there : Rooming t output t (.ok ())
  | made {dir : Path} {after : FileTree} {result : Except FileError Unit}
      (hparent : output.parent? = some dir) (hroom : ¬ HasRoom t output)
      (h : Making t dir after result) :
      Rooming t output after (result.mapError (.directoryNotCreated dir))

theorem rooming (t : FileTree) (output : Path) :
    Rooming t output (makeRoom t output).1 (makeRoom t output).2 := by
  unfold makeRoom
  cases hparent : output.parent? with
  | none => exact .there
  | some dir =>
      simp only
      split
      · exact .there
      · rename_i hmissing
        have hroom : ¬ HasRoom t output := fun h => hmissing (Bool.or_eq_true_iff.2 (h dir hparent))
        have hmaking := making dir.fields.length t dir
        rw [← makeDirs] at hmaking
        have hmade := Rooming.made hparent hroom hmaking
        cases hresult : t.makeDirs dir with
        | mk after result =>
            rw [hresult] at hmade
            cases result <;> exact hmade

variable {result : Except InitError Unit}

theorem Rooming.roomMade (h : Rooming t output after result) : RoomMade t output after := by
  cases h with
  | there => exact .refl t output
  | made hparent hroom h => exact .of_made h.made hparent hroom

/-- Behind directories that had to be made, a path without `..` leads to nothing that was there. -/
theorem Rooming.fresh (h : Rooming t output after (.ok ())) (ht : t.Rooted)
    (hup : [Path.dot, Path.dot] ∉ output.fields) {e : Entry}
    (hfind : after.find output = .ok (l, e)) : after = t ∨ e = .dir ∧ t.get? l = none := by
  generalize hresult : (Except.ok () : Except InitError Unit) = result at h
  cases h with
  | there => exact .inl rfl
  | @made dir _ made hparent hroom h =>
      cases made with
      | error cause => cases hresult
      | ok _ =>
          rcases h.fresh ht (Path.dots_notMem_of_parent? hparent hup) with hsame | ⟨k, hk, hnone⟩
          · exact .inl hsame
          · exact .inr (under_fresh ht h.made.grown hparent hup hk hnone hfind)

/-- What a path leads to that led nowhere was not there, unless it came back by `..` from a
directory that had to be made. -/
theorem Rooming.absent (h : Rooming t output after (.ok ())) (hbefore : t.pathExists output = false)
    (hcase : HasRoom t output ∨ t.Rooted ∧ [Path.dot, Path.dot] ∉ output.fields) {e : Entry}
    (hfind : after.find output = .ok (l, e)) : t.get? l = none := by
  have hother : after ≠ t := by
    rintro rfl
    rw [pathExists, hfind] at hbefore
    cases hbefore
  rcases hcase with hroom | ⟨hrooted, hup⟩
  · exact absurd (h.roomMade.still hroom) hother
  · exact ((h.fresh hrooted hup hfind).resolve_left hother).2

/-! ### The configuration in place -/

/-- The configuration is where its path leads, and every other entry is as before but for
directories that were missing on the way.  Only the null device takes it without keeping it. -/
structure Started (t : FileTree) (output : Path) (after : FileTree) (l : Location) : Prop where
  /-- The path leads to the configuration. -/
  holds : after.find output = .ok (l, .file (Text.encode firstConfig.toList)) ∨
    after.find output = .ok (l, .null) ∧ t.get? l = some .null
  /-- Every other entry is as before, -/
  kept : ∀ m e, m ≠ l → t.get? m = some e → after.get? m = some e
  /-- and so is what any path leads to that leads elsewhere. -/
  ways : ∀ q m e, t.find q = .ok (m, e) → m ≠ l → after.find q = .ok (m, e)
  /-- What else is new is a directory that was missing on the way. -/
  new : ∀ m, m ≠ l → t.get? m = none → after.get? m ≠ none →
    after.get? m = some .dir ∧ OnTheWayTo output after m
  /-- Nothing else is new where no directory had to be made. -/
  still : HasRoom t output → ∀ m, m ≠ l → after.get? m = t.get? m

theorem Started.of_null {room : FileTree} (h : RoomMade t output room)
    (hfind : room.find output = .ok (l, .null)) : Started t output room l := by
  have hthere := get?_of_find hfind (by simp)
  refine ⟨.inr ⟨hfind, h.grown.get?_of_ne_dir hthere (by simp)⟩, fun m e _ => h.grown.entries m e,
    fun q m e hq _ => h.grown.find hq, fun m _ hnone hsome => ?_, fun hroom m _ => ?_⟩
  · obtain ⟨e, he⟩ := Option.ne_none_iff_exists'.1 hsome
    rw [he, h.grown.fresh m e hnone he]
    exact ⟨rfl, h.onTheWay m hnone hsome⟩
  · rw [h.still hroom]

theorem Started.of_putWhere {room : FileTree} (h : RoomMade t output room)
    (hput : PutWhere room output (Text.encode firstConfig.toList) l) :
    Started t output (room.put l (.file (Text.encode firstConfig.toList))) l := by
  refine ⟨.inl hput.found, fun m e hm he => ?_, fun q m e hq hm => ?_, fun m hm hnone hsome => ?_,
    fun hroom m hm => ?_⟩
  · rw [get?_put_of_ne room hm, h.grown.entries m e he]
  · exact hput.isEnd.find_put (h.grown.find hq) hm
  · rw [get?_put_of_ne room hm] at hsome ⊢
    obtain ⟨e, he⟩ := Option.ne_none_iff_exists'.1 hsome
    obtain ⟨dir, q, hparent, hq, hfind⟩ := h.onTheWay m hnone hsome
    rw [he, h.grown.fresh m e hnone he]
    exact ⟨rfl, dir, q, hparent, hq, hput.isEnd.find_put hfind hm⟩
  · rw [get?_put_of_ne room hm, h.still hroom]

/-- **What writing a first configuration leaves behind.**  When it fails, everything is as before but
for directories that were missing on the way to the file, and when it is refused because something
is there already, the tree is the same.  When it is done, the path leads to the configuration and
everything else is as before but for those directories.  Without leave to replace anything, nothing
was at the path, and nothing where it leads now, unless a path with `..` needed new directories. -/
theorem writeFirstConfig_leaves (v : Voice) (output : Path) (force : Bool) (t : FileTree) :
    ∃ after shown,
      (∃ e, writeFirstConfig v output force t = (after, shown, .error e) ∧
        RoomMade t output after ∧ (t.pathExists output = true → force = false → after = t)) ∨
      ∃ l, writeFirstConfig v output force t = (after, shown, .ok ()) ∧ Started t output after l ∧
        (force = false → t.pathExists output = false ∧
          (HasRoom t output ∨ t.Rooted ∧ [Path.dot, Path.dot] ∉ output.fields →
            t.get? l = none)) := by
  unfold writeFirstConfig
  split
  · exact ⟨t, _, .inl ⟨_, rfl, .refl t output, fun _ _ => rfl⟩⟩
  · rename_i hallowed
    have hguard : force = false → t.pathExists output = false := by
      rintro rfl
      exact Bool.eq_false_iff.2 fun hthere => hallowed (by rw [hthere]; rfl)
    have hnot : ∀ {after : FileTree}, t.pathExists output = true → force = false → after = t := by
      intro _ hthere hforce
      rw [hguard hforce] at hthere
      cases hthere
    have hrooming := rooming t output
    cases hroom : makeRoom t output with
    | mk room result =>
        rw [hroom] at hrooming
        have hmade := hrooming.roomMade
        cases result with
        | error e => exact ⟨room, _, .inl ⟨e, rfl, hmade, hnot⟩⟩
        | ok _ =>
            simp only
            cases hwrite : room.writeFile output (Text.encode firstConfig.toList) with
            | error cause => exact ⟨room, _, .inl ⟨_, rfl, hmade, hnot⟩⟩
            | ok written =>
                rcases writeFile_eq_ok hwrite with ⟨l, hnull, rfl⟩ | ⟨l, rfl, hput⟩
                · exact ⟨written, _, .inr ⟨l, rfl, .of_null hmade hnull, fun hforce =>
                    ⟨hguard hforce, fun hcase => hrooming.absent (hguard hforce) hcase hnull⟩⟩⟩
                · refine ⟨_, _, .inr ⟨l, rfl, .of_putWhere hmade hput, fun hforce =>
                    ⟨hguard hforce, fun hcase => ?_⟩⟩⟩
                  rcases hput.before with hnone | ⟨e, hfind, -⟩
                  · exact hmade.grown.none hnone
                  · exact hrooming.absent (hguard hforce) hcase hfind

/-! ### Traces -/

/-- What is written is put where the path leads by then. -/
theorem put_of_writable {v : Voice} {force : Bool}
    (hallowed : (t.pathExists output && !force) = false) (hroom : (makeRoom t output).2 = .ok ())
    (hplace : (makeRoom t output).1.writable output = .ok (some l)) :
    (writeFirstConfig v output force t).1 =
        (makeRoom t output).1.put l (.file (Text.encode firstConfig.toList)) ∧
      (writeFirstConfig v output force t).2.2 = .ok () := by
  cases hmade : makeRoom t output with
  | mk room result =>
      rw [hmade] at hroom hplace
      subst hroom
      have hwrite : room.writeFile output (Text.encode firstConfig.toList) =
          .ok (room.put l (.file (Text.encode firstConfig.toList))) := by
        rw [writeFile, hplace]
      unfold writeFirstConfig
      rw [if_neg (by simp [hallowed]), hmade]
      simp only [hwrite, and_self]

namespace Sample

/-- A tree with nothing in it, -/
def vacant : FileTree :=
  ⟨[], []⟩

/-- one with a file, -/
def kept : FileTree :=
  ⟨[([.ofText "f"], .file [])], []⟩

/-- and one with the null device. -/
def devices : FileTree :=
  ⟨[([.ofText "dev"], .dir), ([.ofText "dev", .ofText "null"], .null)], []⟩

/-- Writing a first configuration, in English. -/
def firstConfigAt (output : String) (force : Bool) (t : FileTree) :
    FileTree × Transcript × Except InitError Unit :=
  writeFirstConfig ⟨.english, false⟩ (.ofText output) force t

/-- A failure leaves a directory, a file is replaced without leave, and the null device keeps
nothing. -/
theorem first_config_traces :
    ((firstConfigAt "new/checks.toml/" false vacant).2.2 =
        .error (.writeFailed (.ofText "new/checks.toml/") .isDirectory) ∧
      vacant.get? [.ofText "new"] = none ∧
      (firstConfigAt "new/checks.toml/" false vacant).1.get? [.ofText "new"] = some .dir) ∧
    ((firstConfigAt "a/../f" false kept).2.2 = .ok () ∧
      kept.get? [.ofText "f"] = some (.file []) ∧
      (firstConfigAt "a/../f" false kept).1.get? [.ofText "f"] =
        some (.file (Text.encode firstConfig.toList))) ∧
    (firstConfigAt "/dev/null" true devices).2.2 = .ok () ∧
      (firstConfigAt "/dev/null" true devices).1.readFile (.ofText "/dev/null") = .ok [] := by
  have hallowed : (kept.pathExists (.ofText "a/../f") && !false) = false := by decide +kernel
  have hroom : (makeRoom kept (.ofText "a/../f")).2 = .ok () :=
    eq_ok_of_toOption (by decide +kernel)
  have hplace : (makeRoom kept (.ofText "a/../f")).1.writable (.ofText "a/../f") =
      .ok (some [.ofText "f"]) := eq_ok_of_toOption (by decide +kernel)
  obtain ⟨htree, hdone⟩ := put_of_writable (v := ⟨.english, false⟩) hallowed hroom hplace
  refine ⟨⟨eq_error_of_refusal? (by decide +kernel), by decide +kernel, by decide +kernel⟩,
    ⟨hdone, by decide +kernel, ?_⟩, eq_ok_of_toOption (by decide +kernel),
    eq_ok_of_toOption (by decide +kernel)⟩
  rw [firstConfigAt, htree]
  exact get?_put_self _ (by simp) _

end Sample

end CheckMatrix
