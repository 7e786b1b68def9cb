import WebProxy.Digest
import WebProxy.Accounting
import WebProxy.Eviction
import WebProxy.Library.FileName

/-! The directory of `DiskCache` as it lies on disk: the paths the code computes for a digest, and its
operations on them. Below the names of `WebProxy.Disk`, which has a digest and a kind for each file. -/

namespace WebProxy.CachePaths

open Disk (Kind Entry partMaxAge evictTarget)
open Weights (weight)

structure Path where
  bucket : List Char
  name : List Char
  deriving DecidableEq, Repr

def blobPath (hex : String) : Path :=
  ⟨hex.toList.take 2, hex.toList⟩

def newPartPath (hex : String) : Path :=
  ⟨hex.toList.take 2, '.' :: hex.toList ++ ".part".toList⟩

def bitmapPath (hex : String) : Path :=
  { newPartPath hex with name := FileName.withExtension (newPartPath hex).name "bitmap".toList }

def pathOf (hex : String) : Kind → Path
  | .blob => blobPath hex
  | .part => newPartPath hex
  | .bitmap => bitmapPath hex

def Path.temporary (path : Path) : Bool :=
  (FileName.extension path.name).any (fun ext => ext = "part".toList || ext = "bitmap".toList)

structure File where
  path : Path
  length : Nat
  modified : Nat
  deriving DecidableEq, Repr

structure Tree where
  files : List File
  distinct : (files.map File.path).Nodup

namespace Tree

def empty : Tree := ⟨[], List.nodup_nil⟩

def keep (tree : Tree) (kept : File → Bool) : Tree :=
  ⟨tree.files.filter kept, (List.filter_sublist.map _).nodup tree.distinct⟩

def remove (tree : Tree) (path : Path) : Tree :=
  tree.keep (fun file => file.path ≠ path)

theorem put_distinct (tree : Tree) (file : File) :
    ((file :: (tree.remove file.path).files).map File.path).Nodup := by
  rw [List.map_cons, List.nodup_cons]
  refine ⟨?_, (tree.remove file.path).distinct⟩
  intro member
  obtain ⟨other, held, same⟩ := List.mem_map.mp member
  have kept := List.of_mem_filter held
  simp [same] at kept

def put (tree : Tree) (file : File) : Tree :=
  ⟨file :: (tree.remove file.path).files, put_distinct tree file⟩

def find (tree : Tree) (path : Path) : Option File :=
  tree.files.find? (fun file => file.path = path)

def rename (tree : Tree) (file : File) (path : Path) : Tree :=
  (tree.remove file.path).put { file with path := path }

end Tree

structure Store where
  tree : Tree
  maxBytes : Nat
  onDisk : Nat
  now : Nat

/-- What the code does in the directory, by path. `listing` is the order in which it is read, `removes`
says which files can be removed. A sidecar that cannot is a commit that is not `chunked`. -/
inductive Event where
  | init
  | commit (hex : String) (size : Nat) (chunked : Bool) (removes : File → Bool) (listing : List File)
  | evictOld (removes : File → Bool) (listing : List File)
  | clear (removes : File → Bool)
  | write (path : Path) (length : Nat)
  | remove (path : Path)
  | tick (elapsed : Nat)

def File.blobBytes (file : File) : Nat := if file.path.temporary then 0 else file.length

def scanBytes (tree : Tree) : Nat := weight File.blobBytes tree.files

def entryCount (tree : Tree) : Nat := tree.files.countP (fun file => !file.path.temporary)

def lookup (tree : Tree) (hex : String) : Option Nat := (tree.find (blobPath hex)).map File.length

def evictable (now : Nat) (file : File) : Bool :=
  !(file.path.temporary && now - file.modified < partMaxAge)

def evictionOrder (now : Nat) (listing : List File) : List File :=
  (listing.filter (evictable now)).insertionSort (fun first second => first.modified ≤ second.modified)

def removeLoop (target : Nat) (removes : File → Bool) : List File → Nat → List File × Nat
  | [], total => ([], total)
  | file :: rest, total =>
      if total ≤ target then ([], total)
      else if removes file then
        let later := removeLoop target removes rest (total - file.length)
        (file :: later.1, later.2)
      else removeLoop target removes rest total

def evictOld (removes : File → Bool) (listing : List File) (store : Store) : Store :=
  if store.onDisk ≤ store.maxBytes then store
  else
    let removal := removeLoop (evictTarget store.maxBytes) removes (evictionOrder store.now listing)
      store.onDisk
    { store with tree := store.tree.keep (fun file => file ∉ removal.1), onDisk := removal.2 }

def committed (removes : File → Bool) (listing : List File) (size : Nat) (store : Store) : Store :=
  let counted := { store with onDisk := store.onDisk + size }
  if counted.maxBytes < counted.onDisk then evictOld removes listing counted else counted

/-- The end of a download: the rename, and the sidecar's removal on the chunked way. -/
def Store.renamed (store : Store) (hex : String) (chunked : Bool) : Option Store :=
  match store.tree.find (newPartPath hex), store.tree.find (blobPath hex) with
  | some part, none =>
      let moved := store.tree.rename part (blobPath hex)
      some { store with tree := if chunked then moved.remove (bitmapPath hex) else moved }
  | _, _ => none

def step (store : Store) : Event → Option Store
  | .init => some { store with onDisk := scanBytes store.tree }
  | .commit hex size chunked removes listing =>
      match store.renamed hex chunked with
      | some next => if listing.Perm next.tree.files then some (committed removes listing size next) else none
      | none => none
  | .evictOld removes listing =>
      if listing.Perm store.tree.files then some (evictOld removes listing store) else none
  | .clear removes => some { store with tree := store.tree.keep (fun file => !removes file), onDisk := 0 }
  | .write path length =>
      if path.temporary then some { store with tree := store.tree.put ⟨path, length, store.now⟩ } else none
  | .remove path => if path.temporary then some { store with tree := store.tree.remove path } else none
  | .tick elapsed => some { store with now := store.now + elapsed }

/-- A key of the cache: what `sha256_hex` makes of a digest. -/
def Named (hex : String) : Prop :=
  ∃ digest, Digest.sha256Hex digest = some hex

def lowerDigits : List Char := "0123456789abcdef".toList

theorem Named.digits {hex : String} (named : Named hex) :
    hex.toList.length = 64 ∧ ∀ char ∈ hex.toList, char ∈ lowerDigits := by
  obtain ⟨digest, accepted⟩ := named
  obtain ⟨suffix, _, size, digits, same⟩ := Digest.sha256Hex_some accepted
  subst same
  rw [Text.toList_toAsciiLowercase, List.length_map]
  refine ⟨size, ?_⟩
  intro char member
  obtain ⟨upper, inside, lowered⟩ := List.mem_map.mp member
  have table : Text.hexDigits.all (fun digit => lowerDigits.contains digit.toLower) = true := by decide
  have lower := List.all_eq_true.mp table upper (digits upper inside)
  rw [← lowered]
  exact List.contains_iff_mem.mp lower

theorem Named.plain {hex : String} (named : Named hex) : '.' ∉ hex.toList := by
  intro member
  have digit := named.digits.2 '.' member
  revert digit
  decide

theorem part_name (hex : String) : (newPartPath hex).name = ('.' :: hex.toList) ++ '.' :: "part".toList := rfl

theorem bitmap_name (hex : String) : (bitmapPath hex).name = ('.' :: hex.toList) ++ '.' :: "bitmap".toList :=
  FileName.withExtension_append (List.cons_ne_nil _ _) (by decide) (by decide) _

def readName (name : List Char) : String × Kind :=
  if FileName.extension name = some "part".toList then
    (String.ofList ((FileName.stem name).drop 1), .part)
  else if FileName.extension name = some "bitmap".toList then
    (String.ofList ((FileName.stem name).drop 1), .bitmap)
  else (String.ofList name, .blob)

theorem readName_pathOf {hex : String} (named : Named hex) (kind : Kind) :
    readName (pathOf hex kind).name = (hex, kind) := by
  have cut : ∀ {ext : List Char}, '.' ∉ ext → ext ≠ [] →
      FileName.extension (('.' :: hex.toList) ++ '.' :: ext) = some ext ∧
        String.ofList ((FileName.stem (('.' :: hex.toList) ++ '.' :: ext)).drop 1) = hex := by
    intro ext plain some_ext
    refine ⟨FileName.extension_append (List.cons_ne_nil _ _) plain some_ext, ?_⟩
    rw [FileName.stem_append (List.cons_ne_nil _ _) plain some_ext, List.drop_succ_cons, List.drop_zero,
      String.ofList_toList]
  cases kind with
  | blob =>
      change readName hex.toList = _
      have none_there := FileName.extension_none named.plain
      unfold readName
      rw [none_there, if_neg (by simp), if_neg (by simp), String.ofList_toList]
  | part =>
      obtain ⟨ext, whole⟩ := cut (show '.' ∉ "part".toList by decide) (by decide)
      change readName (newPartPath hex).name = _
      rw [part_name, readName, if_pos ext, whole]
  | bitmap =>
      obtain ⟨ext, whole⟩ := cut (show '.' ∉ "bitmap".toList by decide) (by decide)
      change readName (bitmapPath hex).name = _
      rw [bitmap_name, readName, ext, if_neg (by decide), if_pos rfl, whole]

theorem temporary_pathOf {hex : String} (named : Named hex) (kind : Kind) :
    (pathOf hex kind).temporary = decide (kind ≠ .blob) := by
  have there : ∀ {ext : List Char}, '.' ∉ ext → ext ≠ [] →
      FileName.extension (('.' :: hex.toList) ++ '.' :: ext) = some ext := by
    intro ext plain some_ext
    exact FileName.extension_append (List.cons_ne_nil _ _) plain some_ext
  cases kind with
  | blob =>
      have none_there : FileName.extension (pathOf hex .blob).name = none :=
        FileName.extension_none named.plain
      rw [Path.temporary, none_there]
      rfl
  | part =>
      have name : (pathOf hex .part).name = ('.' :: hex.toList) ++ '.' :: "part".toList := part_name hex
      rw [Path.temporary, name, there (by decide) (by decide)]
      decide
  | bitmap =>
      have name : (pathOf hex .bitmap).name = ('.' :: hex.toList) ++ '.' :: "bitmap".toList := bitmap_name hex
      rw [Path.temporary, name, there (by decide) (by decide)]
      decide

theorem pathOf_inj {hex other : String} (named : Named hex) (known : Named other) {kind sort : Kind} :
    pathOf hex kind = pathOf other sort ↔ (hex, kind) = (other, sort) := by
  constructor
  · intro same
    rw [← readName_pathOf named kind, same, readName_pathOf known sort]
  · intro same
    cases same
    rfl

def realize (entry : Entry) : File :=
  ⟨pathOf entry.hex entry.kind, entry.length, entry.modified⟩

def recover (file : File) : Entry :=
  ⟨(readName file.path.name).1, (readName file.path.name).2, file.length, file.modified⟩

theorem recover_realize {entry : Entry} (named : Named entry.hex) : recover (realize entry) = entry := by
  unfold recover realize
  rw [readName_pathOf named]

theorem path_realize {entry : Entry} (named : Named entry.hex) {hex : String} (known : Named hex)
    {kind : Kind} : (realize entry).path = pathOf hex kind ↔ entry.name = (hex, kind) :=
  pathOf_inj named known

theorem temporary_realize {entry : Entry} (named : Named entry.hex) :
    (realize entry).path.temporary = entry.temporary :=
  temporary_pathOf named entry.kind

section Listings

variable {entries : List Entry}

theorem filter_realize {kept : File → Bool} {held : Entry → Bool}
    (same : ∀ entry ∈ entries, kept (realize entry) = held entry) :
    (entries.map realize).filter kept = (entries.filter held).map realize := by
  rw [List.filter_map]
  apply congrArg
  exact List.filter_congr same

theorem recover_listing (named : ∀ entry ∈ entries, Named entry.hex) :
    (entries.map realize).map recover = entries := by
  rw [List.map_map]
  have back : ∀ entry ∈ entries, (recover ∘ realize) entry = id entry := by
    intro entry member
    exact recover_realize (named entry member)
  rw [List.map_congr_left back, List.map_id]

theorem mem_realize {removed : List Entry} (named : ∀ entry ∈ removed, Named entry.hex) {entry : Entry}
    (known : Named entry.hex) : realize entry ∈ removed.map realize ↔ entry ∈ removed := by
  constructor
  · intro member
    have back := List.mem_map_of_mem (f := recover) member
    rw [recover_realize known, recover_listing named] at back
    exact back
  · intro member
    exact List.mem_map_of_mem member

theorem perm_realize {listing : List Entry} (named : ∀ entry ∈ entries, Named entry.hex)
    (known : ∀ entry ∈ listing, Named entry.hex) :
    (listing.map realize).Perm (entries.map realize) ↔ listing.Perm entries := by
  constructor
  · intro shuffled
    have back := shuffled.map recover
    rw [recover_listing known, recover_listing named] at back
    exact back
  · intro shuffled
    exact shuffled.map realize

theorem find_realize (named : ∀ entry ∈ entries, Named entry.hex) {hex : String} (known : Named hex)
    (kind : Kind) : (entries.map realize).find? (fun file => file.path = pathOf hex kind) =
      (entries.find? (fun entry => entry.name = (hex, kind))).map realize := by
  induction entries with
  | nil => rfl
  | cons entry entries ih =>
      have later := ih (fun other member => named other (List.mem_cons_of_mem _ member))
      have here : (realize entry).path = pathOf hex kind ↔ entry.name = (hex, kind) :=
        path_realize (named entry List.mem_cons_self) known
      rw [List.map_cons, List.find?_cons, List.find?_cons, later]
      by_cases same : entry.name = (hex, kind)
      · simp [here.mpr same, same]
      · simp [mt here.mp same, same]

theorem removeLoop_realize (target total : Nat) (removes : File → Bool) :
    removeLoop target removes (entries.map realize) total =
      ((Disk.evictLoop target (removes ∘ realize) entries total).removed.map realize,
        (Disk.evictLoop target (removes ∘ realize) entries total).total) := by
  induction entries generalizing total with
  | nil => rfl
  | cons entry entries ih =>
      rw [List.map_cons, removeLoop, Disk.evictLoop]
      by_cases reached : total ≤ target
      · rw [if_pos reached, if_pos reached, List.map_nil]
      · rw [if_neg reached, if_neg reached]
        by_cases removable : removes (realize entry) = true
        · have later := ih (total - entry.length)
          rw [if_pos removable, if_pos (show (removes ∘ realize) entry = true from removable)]
          change (realize entry :: (removeLoop target removes (entries.map realize)
              (total - entry.length)).1,
            (removeLoop target removes (entries.map realize) (total - entry.length)).2) = _
          rw [later, List.map_cons]
        · rw [if_neg removable, if_neg (show ¬ (removes ∘ realize) entry = true from removable)]
          exact ih total

theorem evictionOrder_realize (named : ∀ entry ∈ entries, Named entry.hex) (now : Nat) :
    evictionOrder now (entries.map realize) = (Disk.evictionOrder now entries).map realize := by
  have same : ∀ entry ∈ entries, evictable now (realize entry) = Entry.evictable now entry := by
    intro entry member
    unfold evictable Entry.evictable
    rw [temporary_realize (named entry member)]
    rfl
  unfold evictionOrder Disk.evictionOrder
  rw [filter_realize same]
  apply Eq.symm
  apply List.map_insertionSort
  intro first _ second _
  exact Iff.rfl

end Listings

/-- The directory holds the files of the cache, each at the path the code computes for it. -/
structure Realizes (cache : Disk.DiskCache) (store : Store) : Prop where
  files : store.tree.files = cache.files.entries.map realize
  named : ∀ entry ∈ cache.files.entries, Named entry.hex
  maxBytes : store.maxBytes = cache.maxBytes
  onDisk : store.onDisk = cache.onDisk
  now : store.now = cache.now

/-- The cache by digests and kinds with the files that can be removed at each step; `Disk.step` is this
where all can be. -/
def cacheStep (cache : Disk.DiskCache) : Disk.Event × (File → Bool) → Option Disk.DiskCache
  | (.commit hex size chunked listing, removes) =>
      match cache.renamed hex chunked with
      | some (_, next) =>
          if listing.Perm next.files.entries then
            some (Disk.committed (removes ∘ realize) listing size next)
          else none
      | none => none
  | (.evictOld listing, removes) =>
      if listing.Perm cache.files.entries then some (Disk.evictOld (removes ∘ realize) listing cache) else none
  | (.clear, removes) =>
      some { cache with files := cache.files.keep (fun entry => !removes (realize entry)), onDisk := 0 }
  | (event, _) => Disk.step cache event

theorem cacheStep_all (cache : Disk.DiskCache) (event : Disk.Event) :
    cacheStep cache (event, fun _ => true) = Disk.step cache event := by
  cases event with
  | clear =>
      have nothing : cache.files.keep (fun _ => false) = Disk.Files.empty := by
        unfold Disk.Files.keep Disk.Files.empty
        simp only [List.filter_false]
      change some { cache with files := cache.files.keep (fun _ => false), onDisk := 0 } = _
      rw [nothing]
      rfl
  | _ => rfl

theorem run_cacheStep_all (cache : Disk.DiskCache) (events : List Disk.Event) :
    Machine.run cacheStep cache (events.map (fun event => (event, fun _ => true))) =
      Machine.run Disk.step cache events := by
  induction events generalizing cache with
  | nil => rfl
  | cons event events ih =>
      rw [List.map_cons, Machine.run_cons, Machine.run_cons, cacheStep_all]
      congr 1
      funext next
      exact ih next

def onPaths : Disk.Event × (File → Bool) → Event
  | (.init, _) => .init
  | (.commit hex size chunked listing, removes) => .commit hex size chunked removes (listing.map realize)
  | (.evictOld listing, removes) => .evictOld removes (listing.map realize)
  | (.clear, removes) => .clear removes
  | (.write hex kind length, _) => .write (pathOf hex kind) length
  | (.remove hex kind, _) => .remove (pathOf hex kind)
  | (.tick elapsed, _) => .tick elapsed

def Keyed : Disk.Event → Prop
  | .commit hex _ _ listing => Named hex ∧ ∀ entry ∈ listing, Named entry.hex
  | .evictOld listing => ∀ entry ∈ listing, Named entry.hex
  | .write hex _ _ | .remove hex _ => Named hex
  | _ => True

section Steps

variable {cache : Disk.DiskCache} {store : Store}

theorem scanBytes_realize (same : Realizes cache store) : scanBytes store.tree = Disk.scanBytes cache.files := by
  unfold scanBytes Disk.scanBytes
  rw [same.files, Weights.weight_map]
  apply Weights.weight_congr
  intro entry member
  unfold File.blobBytes Entry.blobBytes
  rw [temporary_realize (same.named entry member)]
  rfl

theorem find_of_realizes (same : Realizes cache store) {hex : String} (known : Named hex) (kind : Kind) :
    store.tree.find (pathOf hex kind) = (cache.files.find (hex, kind)).map realize := by
  unfold Tree.find
  rw [same.files]
  exact find_realize same.named known kind

theorem realizes_keep (same : Realizes cache store) (kept : File → Bool) (held : Entry → Bool)
    (agree : ∀ entry ∈ cache.files.entries, kept (realize entry) = held entry) {counter shown : Nat}
    (counted : shown = counter) :
    Realizes { cache with files := cache.files.keep held, onDisk := counter }
      { store with tree := store.tree.keep kept, onDisk := shown } where
  files := by
    change store.tree.files.filter kept = (cache.files.entries.filter held).map realize
    rw [same.files, filter_realize agree]
  named := by
    intro entry member
    exact same.named entry (List.mem_of_mem_filter member)
  maxBytes := same.maxBytes
  onDisk := counted
  now := same.now

theorem realizes_remove (same : Realizes cache store) {hex : String} (known : Named hex) (kind : Kind) :
    Realizes { cache with files := cache.files.keep (fun entry => entry.name ≠ (hex, kind)) }
      { store with tree := store.tree.remove (pathOf hex kind) } := by
  have agree : ∀ entry ∈ cache.files.entries,
      decide ((realize entry).path ≠ pathOf hex kind) = decide (entry.name ≠ (hex, kind)) := by
    intro entry member
    rw [decide_eq_decide]
    exact not_congr (path_realize (same.named entry member) known)
  exact realizes_keep same (fun file => file.path ≠ pathOf hex kind) (fun entry => entry.name ≠ (hex, kind))
    agree same.onDisk

theorem realizes_put (same : Realizes cache store) (entry : Entry) (known : Named entry.hex) {file : File}
    (shown : file = realize entry) :
    Realizes { cache with files := cache.files.put entry } { store with tree := store.tree.put file } := by
  subst shown
  have rest := realizes_remove same known entry.kind
  constructor
  · exact congrArg (realize entry :: ·) rest.files
  · intro other member
    cases List.mem_cons.mp member with
    | inl here => exact here ▸ known
    | inr behind => exact rest.named other behind
  · exact same.maxBytes
  · exact same.onDisk
  · exact same.now

theorem realizes_evicted (same : Realizes cache store) (eviction : Disk.Eviction)
    (known : ∀ entry ∈ eviction.removed, Named entry.hex) :
    Realizes { cache with
        files := cache.files.keep (fun entry => entry ∉ eviction.removed), onDisk := eviction.total }
      { store with
        tree := store.tree.keep (fun file => file ∉ eviction.removed.map realize)
        onDisk := eviction.total } := by
  apply realizes_keep same (fun file => file ∉ eviction.removed.map realize)
    (fun entry => entry ∉ eviction.removed) _ rfl
  intro entry member
  rw [decide_eq_decide]
  exact not_congr (mem_realize known (same.named entry member))

theorem realizes_evictOld (same : Realizes cache store) (removes : File → Bool) {listing : List Entry}
    (known : ∀ entry ∈ listing, Named entry.hex) :
    Realizes (Disk.evictOld (removes ∘ realize) listing cache)
      (evictOld removes (listing.map realize) store) := by
  by_cases fits : cache.onDisk ≤ cache.maxBytes
  · have under : store.onDisk ≤ store.maxBytes := by rw [same.onDisk, same.maxBytes]; exact fits
    rw [Disk.evictOld, evictOld, if_pos fits, if_pos under]
    exact same
  · have above : ¬ store.onDisk ≤ store.maxBytes := by rw [same.onDisk, same.maxBytes]; exact fits
    have loop : removeLoop (evictTarget store.maxBytes) removes
        (evictionOrder store.now (listing.map realize)) store.onDisk =
          ((cache.eviction (removes ∘ realize) listing).removed.map realize,
            (cache.eviction (removes ∘ realize) listing).total) := by
      rw [same.maxBytes, same.onDisk, same.now, evictionOrder_realize known, removeLoop_realize]
      rfl
    rw [Disk.evictOld_over (Nat.lt_of_not_le fits), evictOld, if_neg above, loop]
    apply realizes_evicted same
    intro entry removed
    obtain ⟨taken, gone, _⟩ := Disk.evictLoop_spec (evictTarget cache.maxBytes) (removes ∘ realize)
      (Disk.evictionOrder cache.now listing) cache.onDisk
    change entry ∈ (Disk.evictLoop _ _ _ _).removed at removed
    rw [gone, taken] at removed
    have tried := List.mem_of_mem_take (List.mem_of_mem_filter removed)
    have ordered := (Disk.evictionOrder_perm cache.now listing).subset tried
    exact known entry (List.mem_of_mem_filter ordered)

theorem realizes_committed (same : Realizes cache store) (removes : File → Bool) {listing : List Entry}
    (known : ∀ entry ∈ listing, Named entry.hex) (size : Nat) :
    Realizes (Disk.committed (removes ∘ realize) listing size cache)
      (committed removes (listing.map realize) size store) := by
  have counted : Realizes { cache with onDisk := cache.onDisk + size }
      { store with onDisk := store.onDisk + size } :=
    ⟨same.files, same.named, same.maxBytes, congrArg (· + size) same.onDisk, same.now⟩
  by_cases full : cache.maxBytes < cache.onDisk + size
  · have beyond : store.maxBytes < store.onDisk + size := by rw [same.onDisk, same.maxBytes]; exact full
    rw [Disk.committed, committed, if_pos full, if_pos beyond]
    exact realizes_evictOld counted removes known
  · have within : ¬ store.maxBytes < store.onDisk + size := by rw [same.onDisk, same.maxBytes]; exact full
    rw [Disk.committed, committed, if_neg full, if_neg within]
    exact counted

theorem renamed_entries (files : Disk.Files) (part : Entry) (chunked : Bool) :
    ((files.keep (fun entry => entry.name ≠ (part.hex, .part))).put { part with kind := .blob }).entries.filter
        (fun entry => chunked = true → entry.name ≠ (part.hex, .bitmap)) =
      (files.rename part chunked).entries := by
  have stays : decide (chunked = true → Entry.name { part with kind := .blob } ≠ (part.hex, .bitmap)) = true := by
    simp [Entry.name]
  change List.filter _ (_ :: List.filter _ (List.filter _ files.entries)) =
    _ :: List.filter _ (List.filter _ files.entries)
  rw [List.filter_cons, if_pos stays, List.filter_filter, List.filter_filter, List.filter_filter]
  apply congrArg
  apply List.filter_congr
  intro entry _
  simp [Bool.and_comm, Bool.and_left_comm, Bool.and_assoc]

theorem realizes_rename (same : Realizes cache store) {hex : String} (known : Named hex) {length modified : Nat}
    (chunked : Bool) :
    let moved := store.tree.rename (realize ⟨hex, .part, length, modified⟩) (blobPath hex)
    Realizes { cache with files := cache.files.rename ⟨hex, .part, length, modified⟩ chunked }
      { store with tree := if chunked then moved.remove (bitmapPath hex) else moved } := by
  intro moved
  have shape := renamed_entries cache.files ⟨hex, .part, length, modified⟩ chunked
  have put := realizes_put (realizes_remove same known .part) ⟨hex, .blob, length, modified⟩ known rfl
  have ended : ∃ entries, (if chunked then moved.remove (bitmapPath hex) else moved).files = entries.map realize ∧
      (∀ entry ∈ entries, Named entry.hex) ∧
        entries = (cache.files.rename ⟨hex, .part, length, modified⟩ chunked).entries := by
    cases chunked with
    | true =>
        have last := realizes_remove put known .bitmap
        refine ⟨_, last.files, last.named, ?_⟩
        rw [← shape]
        simp [Disk.Files.keep]
    | false =>
        refine ⟨_, put.files, put.named, ?_⟩
        rw [← shape]
        simp
  obtain ⟨entries, files, named, whole⟩ := ended
  subst whole
  exact ⟨files, named, same.maxBytes, same.onDisk, same.now⟩

theorem realizes_renamed (same : Realizes cache store) {hex : String} (known : Named hex) (chunked : Bool) :
    Option.Rel Realizes ((cache.renamed hex chunked).map Prod.snd) (store.renamed hex chunked) := by
  have part := find_of_realizes same known .part
  have blob := find_of_realizes same known .blob
  change store.tree.find (newPartPath hex) = _ at part
  change store.tree.find (blobPath hex) = _ at blob
  unfold Disk.DiskCache.renamed Store.renamed
  rw [part, blob]
  cases found : cache.files.find (hex, .part) with
  | none => exact Option.Rel.none
  | some entry =>
      cases cache.files.find (hex, .blob) with
      | some other => exact Option.Rel.none
      | none =>
          have name : entry.name = (hex, .part) := by simpa using List.find?_some found
          obtain ⟨owner, kind, length, modified⟩ := entry
          cases name
          exact Option.Rel.some (realizes_rename same known chunked)

theorem rel_if {taken shown : Prop} [Decidable taken] [Decidable shown] (agree : shown ↔ taken)
    (together : Realizes cache store) :
    Option.Rel Realizes (if taken then some cache else none) (if shown then some store else none) := by
  by_cases here : taken
  · rw [if_pos here, if_pos (agree.mpr here)]
    exact Option.Rel.some together
  · rw [if_neg here, if_neg (mt agree.mp here)]
    exact Option.Rel.none

theorem temporary_iff {hex : String} (known : Named hex) (kind : Kind) :
    (pathOf hex kind).temporary = true ↔ ¬ kind = .blob := by
  rw [temporary_pathOf known, decide_eq_true_eq]

theorem listed_realize (same : Realizes cache store) {listing : List Entry}
    (known : ∀ entry ∈ listing, Named entry.hex) :
    (listing.map realize).Perm store.tree.files ↔ listing.Perm cache.files.entries := by
  rw [same.files]
  exact perm_realize same.named known

theorem realizes_step (same : Realizes cache store) {act : Disk.Event × (File → Bool)} (keyed : Keyed act.1) :
    Option.Rel Realizes (cacheStep cache act) (step store (onPaths act)) := by
  obtain ⟨event, removes⟩ := act
  cases event with
  | init =>
      exact Option.Rel.some ⟨same.files, same.named, same.maxBytes, scanBytes_realize same, same.now⟩
  | commit hex size chunked listing =>
      have renamed := realizes_renamed same keyed.1 chunked
      simp only [cacheStep, step, onPaths]
      revert renamed
      generalize cache.renamed hex chunked = left
      generalize store.renamed hex chunked = right
      intro renamed
      cases left with
      | none =>
          cases renamed with
          | none => exact Option.Rel.none
      | some next =>
          cases renamed with
          | some together =>
              exact rel_if (listed_realize together keyed.2) (realizes_committed together removes keyed.2 size)
  | evictOld listing => exact rel_if (listed_realize same keyed) (realizes_evictOld same removes keyed)
  | clear =>
      have left := realizes_keep same (fun file => !removes file) (fun entry => !removes (realize entry))
        (fun _ _ => rfl) (Eq.refl 0)
      exact Option.Rel.some left
  | write hex kind length =>
      have put := realizes_put same ⟨hex, kind, length, cache.now⟩ keyed
        (congrArg (File.mk (pathOf hex kind) length) same.now)
      have taken := rel_if (temporary_iff keyed kind) put
      rw [ite_not] at taken
      exact taken
  | remove hex kind =>
      have taken := rel_if (temporary_iff keyed kind) (realizes_remove same keyed kind)
      rw [ite_not] at taken
      exact taken
  | tick elapsed =>
      exact Option.Rel.some ⟨same.files, same.named, same.maxBytes, same.onDisk, congrArg (· + elapsed) same.now⟩

end Steps

structure Path.Inside (path : Path) : Prop where
  bucket_length : path.bucket.length = 2
  bucket_digits : ∀ char ∈ path.bucket, char ∈ lowerDigits
  one_component : '/' ∉ path.name
  not_special : path.name ≠ [] ∧ path.name ≠ ['.'] ∧ path.name ≠ ['.', '.']

theorem pathOf_bucket (hex : String) (kind : Kind) : (pathOf hex kind).bucket = hex.toList.take 2 := by
  cases kind with
  | blob => rfl
  | part => rfl
  | bitmap => rfl

theorem pathOf_inside {hex : String} (named : Named hex) (kind : Kind) : (pathOf hex kind).Inside := by
  have size := named.digits.1
  have slash : '/' ∉ hex.toList := by
    intro member
    have digit := named.digits.2 '/' member
    revert digit
    decide
  have long : ∀ {name : List Char}, 64 ≤ name.length → name ≠ [] ∧ name ≠ ['.'] ∧ name ≠ ['.', '.'] := by
    intro name enough
    refine ⟨?_, ?_, ?_⟩
    all_goals
      intro short
      rw [short] at enough
      revert enough
      decide
  constructor
  · rw [pathOf_bucket, List.length_take, size]
    decide
  · intro char member
    rw [pathOf_bucket] at member
    exact named.digits.2 char (List.mem_of_mem_take member)
  · cases kind with
    | blob => exact slash
    | part =>
        change '/' ∉ (newPartPath hex).name
        rw [part_name]
        simp [slash]
    | bitmap =>
        change '/' ∉ (bitmapPath hex).name
        rw [bitmap_name]
        simp [slash]
  · apply long
    cases kind with
    | blob => exact Nat.le_of_eq size.symm
    | part =>
        change 64 ≤ (newPartPath hex).name.length
        rw [part_name, List.length_append, List.length_cons, size]
        omega
    | bitmap =>
        change 64 ≤ (bitmapPath hex).name.length
        rw [bitmap_name, List.length_append, List.length_cons, size]
        omega

/-- What the directory shows of the cache. -/
structure Shows (cache : Disk.DiskCache) (store : Store) : Prop where
  realizes : Realizes cache store
  names : ∀ entry ∈ cache.files.entries, readName (pathOf entry.hex entry.kind).name = entry.name
  scanned : scanBytes store.tree = Disk.scanBytes cache.files
  counted : entryCount store.tree = cache.files.entries.countP (fun entry => !entry.temporary)
  found : ∀ hex, Named hex → lookup store.tree hex = (cache.files.find (hex, .blob)).map Entry.length
  inside : ∀ file ∈ store.tree.files, file.path.Inside

theorem Realizes.shows {cache : Disk.DiskCache} {store : Store} (same : Realizes cache store) :
    Shows cache store where
  realizes := same
  names entry member := readName_pathOf (same.named entry member) entry.kind
  scanned := scanBytes_realize same
  counted := by
    unfold entryCount
    rw [same.files, List.countP_map]
    apply List.countP_congr
    intro entry member
    rw [Function.comp_apply, temporary_realize (same.named entry member)]
  found := by
    intro hex known
    have found := find_of_realizes same known .blob
    change store.tree.find (blobPath hex) = _ at found
    rw [lookup, found, Option.map_map]
    rfl
  inside := by
    intro file member
    rw [same.files] at member
    obtain ⟨entry, held, shown⟩ := List.mem_map.mp member
    rw [← shown]
    exact pathOf_inside (same.named entry held) entry.kind

/-- Every run over the paths goes as the run over digests and kinds, whichever removals fail: it is
refused where that is, and what a scan, a count and the lookups find at its end is what they find there. -/
theorem cache_paths_refine (cache : Disk.DiskCache) (store : Store) (same : Realizes cache store)
    (acts : List (Disk.Event × (File → Bool))) (keyed : ∀ act ∈ acts, Keyed act.1) :
    Option.Rel Shows (Machine.run cacheStep cache acts) (Machine.run step store (acts.map onPaths)) := by
  have together := Machine.run_lockstep onPaths (fun act => Keyed act.1) Realizes
    (fun _ _ _ same keyed => realizes_step same keyed) same keyed
  revert together
  generalize Machine.run cacheStep cache acts = left
  generalize Machine.run step store (acts.map onPaths) = right
  intro together
  cases together with
  | some same => exact Option.Rel.some same.shows
  | none => exact Option.Rel.none

def emptyStore : Store := ⟨Tree.empty, 10, 0, 0⟩

theorem named_replicate {char : Char} (digit : Text.isAsciiHexdigit char = true) (low : char.toLower = char) :
    Named (String.ofList (List.replicate 64 char)) := by
  have valid : (String.ofList (List.replicate 64 char)).toList.length = 64 ∧
      (String.ofList (List.replicate 64 char)).toList.all Text.isAsciiHexdigit = true := by
    rw [String.toList_ofList, List.length_replicate]
    refine ⟨rfl, List.all_eq_true.mpr ?_⟩
    intro other member
    rw [List.eq_of_mem_replicate member]
    exact digit
  refine ⟨"sha256:" ++ String.ofList (List.replicate 64 char), ?_⟩
  rw [Digest.sha256Hex, Text.stripPrefix_append]
  dsimp only
  rw [if_pos valid]
  apply congrArg
  apply String.toList_inj.mp
  rw [Text.toList_toAsciiLowercase, String.toList_ofList, List.map_replicate, low]

def stuckCommits : List (Disk.Event × (File → Bool)) :=
  (.init :: Disk.twoCommits []).map (fun event => (event, fun file => file.path ≠ blobPath Disk.secondKey))

/-- The eviction after the second commit fails at that one and goes on to the first. -/
theorem cache_paths_refine_two_commits :
    ∃ final, Machine.run step emptyStore (stuckCommits.map onPaths) = some final ∧
      final.onDisk = 8 ∧ lookup final.tree Disk.firstKey = none ∧ lookup final.tree Disk.secondKey = some 8 := by
  have first : Named Disk.firstKey := named_replicate (by decide) (by decide)
  have second : Named Disk.secondKey := named_replicate (by decide) (by decide)
  have ended : (Machine.run cacheStep Disk.emptyCache stuckCommits).map
      (fun cache => (cache.onDisk, (cache.files.find (Disk.firstKey, .blob)).map Entry.length,
        (cache.files.find (Disk.secondKey, .blob)).map Entry.length)) = some (8, none, some 8) := by
    decide +kernel
  have start : Realizes Disk.emptyCache emptyStore := by
    refine ⟨rfl, ?_, rfl, rfl, rfl⟩
    intro entry member
    cases member
  have keyed : ∀ act ∈ stuckCommits, Keyed act.1 := by
    simp [stuckCommits, Disk.twoCommits, Keyed, first, second]
  have together := cache_paths_refine Disk.emptyCache emptyStore start stuckCommits keyed
  obtain ⟨cache, ran, values⟩ := Option.map_eq_some_iff.mp ended
  rw [ran] at together
  revert together
  generalize Machine.run step emptyStore (stuckCommits.map onPaths) = final
  intro together
  cases together with
  | some shows =>
      obtain ⟨counter, gone, held⟩ := by simpa only [Prod.mk.injEq] using values
      refine ⟨_, rfl, ?_, ?_, ?_⟩
      · rw [shows.realizes.onDisk, counter]
      · rw [shows.found _ first, gone]
      · rw [shows.found _ second, held]

end WebProxy.CachePaths
