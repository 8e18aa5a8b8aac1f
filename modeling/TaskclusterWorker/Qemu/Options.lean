import TaskclusterWorker.Qemu.Monitor

/-!
# QEMU option strings (`NewVirtualMachine` in `engines/qemu/vm/vm.go`)

`NewVirtualMachine` builds QEMU's `-machine`, `-device`, `-vnc` and `-drive` options with its
closure `arg(kind, opts)`: the kind, then `k=v` for each entry of the map, in the order `range`
visits them, joined by commas. Keys and values go in as they are.

QEMU reads such a string as comma-separated items, `,,` standing for a literal comma; the
first item is the kind unless it is a `key=value` pair (as in `-drive`, whose kind is empty),
and the other items are `key=value` pairs (`decodeOpts`).

* `decodeOpts_arg` — a kind and keys with neither `,` nor `=`, and values with no `,`, are
  read back exactly, entry by entry, in whatever order `range` gave them;
* `decodeOpts_arg_comma` — a value with a comma QEMU splits on is read as more than one item:
  in whatever order, QEMU rejects the string or reads more options than the map has;
* `bootDrive_injected` — a disk path with `,if=ide` in it gives the boot disk a second
  interface, and a socket folder with a comma gives a `-vnc` option QEMU rejects.
-/

namespace TaskclusterWorker.Qemu

/-- The closure `arg` of `NewVirtualMachine`, over the entries of its map in the order `range`
visits them. -/
def arg (kind : String) (opts : List (String × String)) : String :=
  opts.foldl (fun result kv => (if result ≠ "" then result ++ "," else result) ++ kv.1 ++ "=" ++ kv.2)
    kind

/-- The boot disk's `-drive` map, `vm.image.DiskFile()` and `vm.image.Format()` in it, as the
source lists it. -/
def bootDriveOpts (diskFile format : String) : List (String × String) :=
  [("file", diskFile), ("if", "none"), ("id", "boot-disk"), ("cache", "unsafe"),
    ("aio", "threads"), ("format", format), ("werror", "report"), ("rerror", "report")]

/-- The `-vnc` option of the VM `NewVirtualMachine(socketFolder, ...)` makes with the slug
`slug`: `unix:` and its VNC socket, shared. -/
def vncOption (socketFolder slug : String) : String :=
  arg ("unix:" ++ joinPath (joinPath socketFolder slug) vncSocketFile) [("share", "force-shared")]

/-! ## QEMU's reading of an option string -/

/-- `c` joins the front of the first item. -/
def consHead (c : Char) : List (List Char) → List (List Char)
  | [] => [[c]]
  | item :: items => (c :: item) :: items

/-- Modelled from the spec: QEMU's split of an option string into comma-separated items, `,,`
standing for a literal comma. -/
def splitItems : List Char → List (List Char)
  | [] => [[]]
  | ',' :: ',' :: rest => consHead ',' (splitItems rest)
  | ',' :: rest => [] :: splitItems rest
  | c :: rest => consHead c (splitItems rest)

/-- Modelled from the spec: a `key=value` item, split at its first `=`. -/
def parsePair (item : List Char) : Option (String × String) :=
  match item.dropWhile (· != '=') with
  | _ :: value => some (⟨item.takeWhile (· != '=')⟩, ⟨value⟩)
  | [] => none

/-- Modelled from the spec: the kind and the `key=value` pairs QEMU reads from an option string.
The first item is the kind, unless it is a `key=value` pair: then the kind is empty. -/
def decodeOpts (s : String) : Option (String × List (String × String)) :=
  match splitItems s.data with
  | [] => none
  | first :: rest =>
    if '=' ∈ first then ((first :: rest).mapM parsePair).map ("", ·)
    else (rest.mapM parsePair).map (⟨first⟩, ·)

/-! ## The items of a string -/

section Items

variable {c : Char} {p l : List Char}

theorem consHead_ne_nil (xs : List (List Char)) : consHead c xs ≠ [] := by
  cases xs <;> simp [consHead]

theorem consHead_append {xs : List (List Char)} (h : xs ≠ []) (ys : List (List Char)) :
    consHead c (xs ++ ys) = consHead c xs ++ ys := by
  cases xs with
  | nil => exact absurd rfl h
  | cons x xs => rfl

theorem splitItems_sep (hl : l.head? ≠ some ',') : splitItems (',' :: l) = [] :: splitItems l :=
  splitItems.eq_3 l fun _ h => hl (by simp [h])

theorem splitItems_of_ne (hc : c ≠ ',') (l : List Char) :
    splitItems (c :: l) = consHead c (splitItems l) :=
  splitItems.eq_4 c l (fun _ h => absurd h hc) hc

theorem splitItems_ne_nil (l : List Char) : splitItems l ≠ [] := by
  unfold splitItems
  split <;> simp [consHead_ne_nil]

theorem getLast?_ne_of_cons {x : Char} (h : (c :: l).getLast? ≠ some x) : l.getLast? ≠ some x :=
  fun hl => h (by rw [List.getLast?_cons, hl]; rfl)

theorem getLast?_ne_of_not_mem {x : Char} (h : x ∉ l) : l.getLast? ≠ some x :=
  fun hl => h (List.mem_of_getLast?_eq_some hl)

/-- A separating comma between two pieces, neither of which it touches, splits them apart. -/
theorem splitItems_append_sep (hp : p.getLast? ≠ some ',') (hl : l.head? ≠ some ',') :
    splitItems (p ++ ',' :: l) = splitItems p ++ splitItems l := by
  induction p using splitItems.induct with
  | case1 => exact splitItems_sep hl
  | case2 rest ih =>
    rw [List.cons_append, List.cons_append, splitItems, splitItems,
      ih (getLast?_ne_of_cons (getLast?_ne_of_cons hp)), consHead_append (splitItems_ne_nil _)]
  | case3 rest hne ih =>
    obtain ⟨a, rest, rfl⟩ := List.exists_cons_of_ne_nil fun h : rest = [] => hp (by simp [h])
    have ha : a ≠ ',' := fun h => hne rest (by rw [h])
    rw [List.cons_append, splitItems_sep (by simpa using ha), ih (getLast?_ne_of_cons hp),
      splitItems.eq_3 _ hne, List.cons_append]
  | case4 c rest _ hc ih =>
    rw [List.cons_append, splitItems_of_ne hc, splitItems_of_ne hc, ih (getLast?_ne_of_cons hp),
      consHead_append (splitItems_ne_nil _)]

/-- A comma-free prefix joins the first item. -/
theorem splitItems_append_plain (hp : ',' ∉ p) (l : List Char) :
    ∃ i is, splitItems l = i :: is ∧ splitItems (p ++ l) = (p ++ i) :: is := by
  induction p with
  | nil => exact (List.exists_cons_of_ne_nil (splitItems_ne_nil l)).imp fun i ⟨is, h⟩ => ⟨is, h, h⟩
  | cons c p ih =>
    obtain ⟨i, is, hl, hpl⟩ := ih (fun h => hp (List.mem_cons_of_mem _ h))
    refine ⟨i, is, hl, ?_⟩
    rw [List.cons_append, splitItems_of_ne (fun h => hp (h ▸ List.mem_cons_self _ _)), hpl]
    rfl

theorem splitItems_plain (hp : ',' ∉ p) : splitItems p = [p] := by
  obtain ⟨i, is, h, hp⟩ := splitItems_append_plain hp []
  cases h
  simpa using hp

end Items

/-! ## The items `arg` writes -/

section Arg

/-- The item `arg` writes for one entry: `k=v`. -/
def pairItem (kv : String × String) : List Char := kv.1.data ++ '=' :: kv.2.data

theorem arg_cons (kind : String) (kv : String × String) (opts : List (String × String)) :
    arg kind (kv :: opts) =
      arg ((if kind ≠ "" then kind ++ "," else kind) ++ kv.1 ++ "=" ++ kv.2) opts := rfl

theorem ne_empty_of_data {s : String} (h : s.data ≠ []) : s ≠ "" := fun hs => h (by rw [hs])

/-- Past a non-empty start, `arg` writes `,k=v` for each entry. -/
theorem arg_data {result : String} (h : result ≠ "") (opts : List (String × String)) :
    (arg result opts).data = result.data ++ opts.flatMap fun kv => ',' :: pairItem kv := by
  induction opts generalizing result with
  | nil => simp [arg]
  | cons kv opts ih =>
    rw [arg_cons, if_pos h, ih (ne_empty_of_data (by simp [String.data_append]))]
    simp [String.data_append, pairItem]

/-- `arg ""` starts with its first entry. -/
theorem arg_empty_cons (kv : String × String) (opts : List (String × String)) :
    (arg "" (kv :: opts)).data = pairItem kv ++ opts.flatMap fun kv => ',' :: pairItem kv := by
  rw [arg_cons, if_neg (by simp), arg_data (ne_empty_of_data (by simp [String.data_append]))]
  simp [String.data_append, pairItem]

variable {kv : String × String}

theorem head?_pairItem_append (hk : ',' ∉ kv.1.data) (l : List Char) :
    (pairItem kv ++ l).head? ≠ some ',' := by
  unfold pairItem
  cases h : kv.1.data with
  | nil => simp
  | cons a k => simpa [h] using fun ha : a = ',' => hk (by simp [h, ha])

theorem getLast?_pairItem (hv : kv.2.data.getLast? ≠ some ',') :
    (pairItem kv).getLast? ≠ some ',' := by
  unfold pairItem
  rw [List.getLast?_append, List.getLast?_cons]
  cases h : kv.2.data.getLast? <;> simp_all

/-- QEMU's items of `k=v`: those of `v`, the first with `k=` before it. -/
theorem splitItems_pairItem (hk : ',' ∉ kv.1.data) :
    ∃ i is, splitItems kv.2.data = i :: is ∧ splitItems (pairItem kv) = (kv.1.data ++ '=' :: i) :: is := by
  obtain ⟨i, is, h, hs⟩ := splitItems_append_plain (p := kv.1.data ++ ['='])
    (by simpa using hk) kv.2.data
  exact ⟨i, is, h, by simpa [pairItem] using hs⟩

theorem length_splitItems_pairItem (hk : ',' ∉ kv.1.data) :
    (splitItems (pairItem kv)).length = (splitItems kv.2.data).length := by
  obtain ⟨i, is, h, hs⟩ := splitItems_pairItem hk
  rw [h, hs]; rfl

theorem splitItems_pairItem_plain (hk : ',' ∉ kv.1.data) (hv : ',' ∉ kv.2.data) :
    splitItems (pairItem kv) = [pairItem kv] :=
  splitItems_plain (by simp [pairItem, hk, hv])

variable {opts : List (String × String)}

/-- QEMU's items of `p,k₁=v₁,…`: those of `p`, then those of each `k=v`. -/
theorem splitItems_sep_pairs (hkeys : ∀ kv ∈ opts, ',' ∉ kv.1.data)
    (hvals : ∀ kv ∈ opts, kv.2.data.getLast? ≠ some ',') {p : List Char}
    (hp : p.getLast? ≠ some ',') :
    splitItems (p ++ opts.flatMap fun kv => ',' :: pairItem kv) =
      splitItems p ++ opts.flatMap fun kv => splitItems (pairItem kv) := by
  induction opts generalizing p with
  | nil => simp
  | cons kv opts ih =>
    obtain ⟨hk, hkeys⟩ := List.forall_mem_cons.mp hkeys
    obtain ⟨hv, hvals⟩ := List.forall_mem_cons.mp hvals
    rw [List.flatMap_cons, List.flatMap_cons, List.cons_append,
      splitItems_append_sep hp (head?_pairItem_append hk _), ih hkeys hvals (getLast?_pairItem hv)]

theorem parsePair_pairItem (hk : '=' ∉ kv.1.data) : parsePair (pairItem kv) = some kv := by
  have hne : ∀ a ∈ kv.1.data, (a != '=') = true := fun a ha => by
    simpa using fun h : a = '=' => hk (h ▸ ha)
  simp [parsePair, pairItem, List.dropWhile_append_of_pos hne, List.takeWhile_append_of_pos hne]

theorem mapM_parsePair (hkeys : ∀ kv ∈ opts, '=' ∉ kv.1.data) :
    (opts.map pairItem).mapM parsePair = some opts := by
  induction opts with
  | nil => rfl
  | cons kv opts ih =>
    obtain ⟨hk, hkeys⟩ := List.forall_mem_cons.mp hkeys
    rw [List.map_cons, List.mapM_cons, parsePair_pairItem hk, ih hkeys]
    rfl

/-- QEMU's items of `p,k₁=v₁,…` for entries with no comma: those of `p`, then each `k=v`. -/
theorem splitItems_sep_plain (hkeys : ∀ kv ∈ opts, ',' ∉ kv.1.data)
    (hvals : ∀ kv ∈ opts, ',' ∉ kv.2.data) {p : List Char} (hp : p.getLast? ≠ some ',') :
    splitItems (p ++ opts.flatMap fun kv => ',' :: pairItem kv) =
      splitItems p ++ opts.map pairItem := by
  rw [splitItems_sep_pairs hkeys (fun kv h => getLast?_ne_of_not_mem (hvals kv h)) hp,
    List.map_eq_flatMap]
  exact congrArg _ (List.flatMap_congr fun kv h => splitItems_pairItem_plain (hkeys kv h) (hvals kv h))

end Arg

/-! ## What QEMU reads from `arg` -/

/-- **The round trip.** For a kind and keys with neither `,` nor `=`, and values with no `,`,
QEMU reads back from `arg(kind, opts)` exactly the kind and the entries, each once and in the
order `range` visited them, whatever that order. -/
theorem decodeOpts_arg (kind : String) (opts : List (String × String))
    (hkind : ',' ∉ kind.data ∧ '=' ∉ kind.data)
    (hkeys : ∀ kv ∈ opts, ',' ∉ kv.1.data ∧ '=' ∉ kv.1.data)
    (hvals : ∀ kv ∈ opts, ',' ∉ kv.2.data) :
    decodeOpts (arg kind opts) = some (kind, opts) := by
  by_cases hk : kind = ""
  · subst hk
    cases opts with
    | nil => decide
    | cons kv opts =>
      obtain ⟨⟨hk, -⟩, hkeys'⟩ := List.forall_mem_cons.mp hkeys
      obtain ⟨hv, hvals⟩ := List.forall_mem_cons.mp hvals
      rw [decodeOpts, arg_empty_cons,
        splitItems_sep_plain (fun x hx => (hkeys' x hx).1) hvals
          (getLast?_pairItem (getLast?_ne_of_not_mem hv)),
        splitItems_pairItem_plain hk hv]
      simp only [List.singleton_append, if_pos (show '=' ∈ pairItem kv by simp [pairItem])]
      rw [← List.map_cons, mapM_parsePair fun x hx => (hkeys x hx).2]
      rfl
  · rw [decodeOpts, arg_data hk,
      splitItems_sep_plain (fun x hx => (hkeys x hx).1) hvals (getLast?_ne_of_not_mem hkind.1),
      splitItems_plain hkind.1]
    simp only [List.singleton_append, if_neg hkind.2]
    rw [mapM_parsePair fun x hx => (hkeys x hx).2]
    rfl

/-- The boot disk of an image at `/images/disk.img`, in `qcow2` format. -/
theorem decodeOpts_arg_bootDrive :
    decodeOpts (arg "" (bootDriveOpts "/images/disk.img" "qcow2")) =
      some ("", bootDriveOpts "/images/disk.img" "qcow2") :=
  decodeOpts_arg "" _ (by decide) (by decide) (by decide)

section Comma

variable {opts : List (String × String)}

theorem length_mapM_parsePair {items : List (List Char)} {pairs : List (String × String)}
    (h : items.mapM parsePair = some pairs) : pairs.length = items.length := by
  induction items generalizing pairs with
  | nil => cases h; rfl
  | cons item items ih =>
    rw [List.mapM_cons] at h
    obtain ⟨kv, -, h⟩ := Option.bind_eq_some.mp h
    obtain ⟨rest, hrest, h⟩ := Option.bind_eq_some.mp h
    cases h
    simp [ih hrest]

/-- QEMU reads one pair per item, but for a first item that is the kind. -/
theorem decodeOpts_length {s : String} {first : List Char} {rest : List (List Char)}
    (hs : splitItems s.data = first :: rest) {k : String} {pairs : List (String × String)}
    (h : decodeOpts s = some (k, pairs)) :
    pairs.length = if '=' ∈ first then rest.length + 1 else rest.length := by
  simp only [decodeOpts, hs] at h
  split_ifs at h with he <;> obtain ⟨pairs', hp, he'⟩ := Option.map_eq_some'.mp h <;> cases he' <;>
    simp [he, length_mapM_parsePair hp]

theorem length_le_flatMap_splitItems (opts : List (String × String)) :
    opts.length ≤ (opts.flatMap fun kv => splitItems (pairItem kv)).length := by
  induction opts with
  | nil => simp
  | cons kv opts ih =>
    have := List.length_pos.mpr (splitItems_ne_nil (pairItem kv))
    simp only [List.flatMap_cons, List.length_append, List.length_cons]
    omega

/-- A value QEMU splits gives more items than entries. -/
theorem length_lt_flatMap_splitItems (hkeys : ∀ kv ∈ opts, ',' ∉ kv.1.data)
    (hcomma : ∃ kv ∈ opts, 2 ≤ (splitItems kv.2.data).length) :
    opts.length < (opts.flatMap fun kv => splitItems (pairItem kv)).length := by
  induction opts with
  | nil => simp at hcomma
  | cons kv opts ih =>
    obtain ⟨hk, hkeys⟩ := List.forall_mem_cons.mp hkeys
    have hlen := length_splitItems_pairItem hk
    simp only [List.flatMap_cons, List.length_append, List.length_cons]
    obtain ⟨x, hx, h2⟩ := hcomma
    rcases List.mem_cons.mp hx with rfl | hx
    · have := length_le_flatMap_splitItems opts
      omega
    · have := ih hkeys ⟨x, hx, h2⟩
      have := List.length_pos.mpr (splitItems_ne_nil (pairItem kv))
      omega

/-- **A comma in a value.** For keys with no `,`, and a kind and values that do not end in
one, a value in which QEMU finds a separating comma is read as several items: whatever order
`range` visits the map in, QEMU rejects the string, or reads more options than the map has. -/
theorem decodeOpts_arg_comma (kind : String) (opts : List (String × String))
    (hkind : kind.data.getLast? ≠ some ',')
    (hkeys : ∀ kv ∈ opts, ',' ∉ kv.1.data)
    (hvals : ∀ kv ∈ opts, kv.2.data.getLast? ≠ some ',')
    (hcomma : ∃ kv ∈ opts, 2 ≤ (splitItems kv.2.data).length) :
    decodeOpts (arg kind opts) = none ∨
      ∃ k pairs, decodeOpts (arg kind opts) = some (k, pairs) ∧ opts.length < pairs.length := by
  rcases h : decodeOpts (arg kind opts) with _ | ⟨k, pairs⟩
  · exact .inl rfl
  refine .inr ⟨k, pairs, rfl, ?_⟩
  have hlt := length_lt_flatMap_splitItems hkeys hcomma
  by_cases hk : kind = ""
  · -- the first entry's item comes first, and holds its `=`
    subst hk
    obtain ⟨kv, opts, rfl⟩ := List.exists_cons_of_ne_nil fun h : opts = [] => by simp [h] at hcomma
    obtain ⟨hk, hkeys⟩ := List.forall_mem_cons.mp hkeys
    obtain ⟨hv, hvals⟩ := List.forall_mem_cons.mp hvals
    obtain ⟨i, is, -, hsplit⟩ := splitItems_pairItem hk
    have hs : splitItems (arg "" (kv :: opts)).data =
        (kv.1.data ++ '=' :: i) :: (is ++ opts.flatMap fun kv => splitItems (pairItem kv)) := by
      rw [arg_empty_cons, splitItems_sep_pairs hkeys hvals (getLast?_pairItem hv), hsplit,
        List.cons_append]
    rw [decodeOpts_length hs h, if_pos (by simp)]
    simp only [List.flatMap_cons, hsplit, List.length_append, List.length_cons] at hlt ⊢
    omega
  · -- the kind's items come first
    obtain ⟨f, fs, hf⟩ := List.exists_cons_of_ne_nil (splitItems_ne_nil kind.data)
    have hs : splitItems (arg kind opts).data =
        f :: (fs ++ opts.flatMap fun kv => splitItems (pairItem kv)) := by
      rw [arg_data hk, splitItems_sep_pairs hkeys hvals hkind, hf, List.cons_append]
    have hp := decodeOpts_length hs h
    simp only [List.length_append] at hp
    split_ifs at hp <;> omega

/-- A disk at `/images/a,b.img`: QEMU cannot read the boot disk as the map `arg` was given. -/
theorem decodeOpts_arg_comma_bootDrive :
    decodeOpts (arg "" (bootDriveOpts "/images/a,b.img" "raw")) = none ∨
      ∃ k pairs, decodeOpts (arg "" (bootDriveOpts "/images/a,b.img" "raw")) = some (k, pairs) ∧
        (bootDriveOpts "/images/a,b.img" "raw").length < pairs.length :=
  decodeOpts_arg_comma "" _ (by decide) (by decide) (by decide) (by decide)

end Comma

/-- A disk path with `,if=ide` in it: QEMU reads the boot disk with a second interface, the
injected one first. A socket folder with a comma in it: QEMU cannot read the `-vnc` option. -/
theorem bootDrive_injected :
    decodeOpts (arg "" (bootDriveOpts "/images/disk.img,if=ide" "qcow2")) =
      some ("", [("file", "/images/disk.img"), ("if", "ide"), ("if", "none"),
        ("id", "boot-disk"), ("cache", "unsafe"), ("aio", "threads"), ("format", "qcow2"),
        ("werror", "report"), ("rerror", "report")]) ∧
    decodeOpts (vncOption "/var/run/qemu,vms" "vm") = none := by
  decide

end TaskclusterWorker.Qemu
