/-
This file proves what a read of kernel memory gives, for every offset, every
length and every size of the tables. The windows are stated by arithmetic, and
the device finds exactly them: no read lies in two windows, so that the order in
which the device looks for them is of no account, and a read that lies in none
gives nothing.

The terminal headers end below the process table only because there are few
terminals: that is the one place where the number of slots is needed.
-/

import SixthEdition.Device.Basic
import SixthEdition.Proofs.Records

namespace SixthEdition.Device.Memory

/-! ### The windows by arithmetic -/

/-- The offsets and lengths at which a window is read. -/
def Covers (tables : Tables) (offset length : Nat) : Window → Prop
  | .swapDevice => offset = 780 ∧ length = 2
  | .processTable => offset = 2694
  | .image slot => slot < tables.processes.size ∧ offset = 4096 + 64 * slot ∧ length = 512
  | .terminal unit => unit < tables.terminals.size ∧ offset = 1024 + 32 * unit ∧ length = 32

/-- No read lies in two windows. -/
theorem Covers.unique {tables : Tables} {offset length : Nat} {first second : Window}
    (inFirst : Covers tables offset length first) (inSecond : Covers tables offset length second) :
    first = second := by
  have few : tables.terminals.size ≤ 9 := tables.terminals.fits
  cases first <;> cases second <;> simp only [Covers] at inFirst inSecond <;>
    first
    | rfl
    | exact congrArg Window.image (by omega)
    | exact congrArg Window.terminal (by omega)
    | omega

/-- Nothing stands where a free slot of the terminal table would be shown. -/
theorem not_covers_free_terminal {tables : Tables} {slot length : Nat}
    (inTable : slot < AddressMap.terminalSlots) (free : tables.terminals.size ≤ slot)
    (window : Window) : ¬ Covers tables (AddressMap.terminal slot) length window := by
  have few : slot < 9 := inTable
  have start : AddressMap.terminal slot = 1024 + 32 * slot := rfl
  intro covers
  cases window <;> simp only [Covers, start] at covers <;> omega

/-! ### What the device finds -/

/-- A row of entries holds the one that starts at the offset, if there is one. -/
theorem entryAt?_eq_some_iff {base stride size count offset length entry : Nat}
    (positive : 0 < stride) :
    entryAt? base stride size count offset length = some entry ↔
      entry < count ∧ offset = base + stride * entry ∧ length = size := by
  unfold entryAt?
  constructor
  · intro found
    split at found
    case isTrue inside =>
      obtain ⟨sized, above, aligned, bounded⟩ := inside
      obtain rfl := Option.some.inj found
      have whole := Nat.div_add_mod (offset - base) stride
      exact ⟨bounded, by omega, sized⟩
    case isFalse => cases found
  · rintro ⟨bounded, rfl, rfl⟩
    have start : base + stride * entry - base = stride * entry := Nat.add_sub_cancel_left ..
    rw [start, Nat.mul_div_cancel_left entry positive, Nat.mul_mod_right,
      if_pos ⟨rfl, Nat.le_add_right .., rfl, bounded⟩]

/-- The device's looks, each for the windows of one kind. -/
def looks : List (Tables → Nat → Nat → Option Window) :=
  [fun _ offset length =>
      if offset = AddressMap.swapDevice ∧ length = 2 then some .swapDevice else none,
    fun _ offset _ => if offset = AddressMap.processTable then some .processTable else none,
    fun tables offset length =>
      (entryAt? AddressMap.imageTable AddressMap.clickSize AddressMap.imagePageSize
        tables.processes.size offset length).map .image,
    fun tables offset length =>
      (entryAt? AddressMap.terminalTable AddressMap.terminalRecordSize
        AddressMap.terminalRecordSize tables.terminals.size offset length).map .terminal]

theorem window?_eq_looks (tables : Tables) (offset length : Nat) :
    window? tables offset length = looks.findSome? fun look => look tables offset length := by
  unfold window? looks
  simp only [List.findSome?_cons, List.findSome?_nil]
  split
  · rfl
  · split
    · rfl
    · cases entryAt? AddressMap.imageTable AddressMap.clickSize AddressMap.imagePageSize
        tables.processes.size offset length with
      | some slot => rfl
      | none =>
        cases entryAt? AddressMap.terminalTable AddressMap.terminalRecordSize
          AddressMap.terminalRecordSize tables.terminals.size offset length <;> rfl

/-- The looks find the windows that cover the read, and no others. -/
theorem exists_look_iff {tables : Tables} {offset length : Nat} {window : Window} :
    (∃ look ∈ looks, look tables offset length = some window) ↔
      Covers tables offset length window := by
  simp only [looks, List.mem_cons, List.not_mem_nil, or_false, exists_eq_or_imp, exists_eq_left,
    Option.ite_none_right_eq_some, Option.some.injEq, Option.map_eq_some_iff,
    entryAt?_eq_some_iff (show 0 < AddressMap.clickSize by decide),
    entryAt?_eq_some_iff (show 0 < AddressMap.terminalRecordSize by decide)]
  cases window <;>
    simp [Covers, AddressMap.swapDevice, AddressMap.processTable, AddressMap.imageTable,
      AddressMap.clickSize, AddressMap.imagePageSize, AddressMap.terminalTable,
      AddressMap.terminalRecordSize]

/-- In whatever order the device looks for them, it finds the one window that covers the read. -/
theorem findSome?_looks_eq_some_iff {tables : Tables} {offset length : Nat} {window : Window}
    {order : List (Tables → Nat → Nat → Option Window)} (reordered : order.Perm looks) :
    (order.findSome? fun look => look tables offset length) = some window ↔
      Covers tables offset length window := by
  have covered {found : Window} {look : Tables → Nat → Nat → Option Window}
      (member : look ∈ order) (finds : look tables offset length = some found) :
      Covers tables offset length found :=
    exists_look_iff.mp ⟨look, reordered.mem_iff.mp member, finds⟩
  constructor
  · intro found
    obtain ⟨look, member, finds⟩ := List.exists_of_findSome?_eq_some found
    exact covered member finds
  · intro covers
    obtain ⟨look, member, finds⟩ := exists_look_iff.mpr covers
    cases outcome : order.findSome? fun look => look tables offset length with
    | none =>
      have missed := List.findSome?_eq_none_iff.mp outcome look (reordered.mem_iff.mpr member)
      rw [finds] at missed
      cases missed
    | some found =>
      obtain ⟨other, otherMember, otherFinds⟩ := List.exists_of_findSome?_eq_some outcome
      rw [(covered otherMember otherFinds).unique covers]

theorem findSome?_looks_of_perm {tables : Tables} {offset length : Nat}
    {order : List (Tables → Nat → Nat → Option Window)} (reordered : order.Perm looks) :
    (order.findSome? fun look => look tables offset length) = window? tables offset length := by
  apply Option.ext
  intro window
  rw [findSome?_looks_eq_some_iff reordered, window?_eq_looks,
    findSome?_looks_eq_some_iff (List.Perm.refl looks)]

theorem window?_eq_some_iff {tables : Tables} {offset length : Nat} {window : Window} :
    window? tables offset length = some window ↔ Covers tables offset length window := by
  rw [window?_eq_looks, findSome?_looks_eq_some_iff (List.Perm.refl looks)]

theorem window?_eq_none_iff {tables : Tables} {offset length : Nat} :
    window? tables offset length = none ↔ ∀ window, ¬ Covers tables offset length window := by
  rw [Option.eq_none_iff_forall_not_mem]
  exact forall_congr' fun window => not_congr window?_eq_some_iff

/-! ### What a read gives -/

theorem read_of_covers {tables : Tables} {offset : Nat} {buffer : Bytes} (window : Window)
    (covers : Covers tables offset buffer.length window) :
    read tables offset buffer = readWindow tables buffer window := by
  rw [read, window?_eq_some_iff.mpr covers]

theorem read_of_not_covers {tables : Tables} {offset : Nat} {buffer : Bytes}
    (outside : ∀ window, ¬ Covers tables offset buffer.length window) :
    read tables offset buffer = { buffer } := by
  rw [read, window?_eq_none_iff.mpr outside]

/-- The records of all slots as they are shown. -/
def shownRecords (tables : Tables) : List ProcessRecord :=
  tables.processes.entries.mapIdx fun slot process => shownRecord slot process.record

@[simp] theorem length_shownRecords (tables : Tables) :
    (shownRecords tables).length = tables.processes.size :=
  List.length_mapIdx

theorem shownTable_eq (tables : Tables) :
    shownTable tables = ((shownRecords tables).map ProcessRecord.toBytes).flatten := by
  rw [shownTable, shownRecords, List.mapIdx_eq_zipIdx_map, List.mapIdx_eq_zipIdx_map, List.map_map]
  rfl

theorem shownRecords_getElem? {tables : Tables} {slot : Nat} {process : Process}
    (found : tables.processes.get? slot = some process) :
    (shownRecords tables)[slot]? = some (shownRecord slot process.record) := by
  rw [Table.get?] at found
  rw [shownRecords, List.getElem?_mapIdx, found]
  rfl

theorem length_shownTable (tables : Tables) :
    (shownTable tables).length = tables.processes.size * RecordKind.process.size := by
  rw [shownTable_eq, ProcessRecord.length_flatten, length_shownRecords]

/-- The place of a slot in the table holds the record that is shown for it. -/
theorem ofBytes_shownTable {tables : Tables} {slot : Nat} {process : Process}
    (found : tables.processes.get? slot = some process) :
    ProcessRecord.ofBytes (((shownTable tables).drop (RecordKind.process.size * slot)).take
      RecordKind.process.size) = .ok (shownRecord slot process.record) := by
  rw [shownTable_eq, ProcessRecord.ofBytes_row _ slot _ (shownRecords_getElem? found)]

/-- Read in full and cut into rows, the table gives the record of each slot in order. -/
theorem mapM_ofBytes_shownTable (tables : Tables) :
    (Bytes.rows AddressMap.processRecordSize ((shownTable tables).fit
      (AddressMap.processSlots * AddressMap.processRecordSize))).mapM ProcessRecord.ofBytes =
      .ok (shownRecords tables ++
        List.replicate (AddressMap.processSlots - tables.processes.size) .unused) := by
  have fits : (shownRecords tables).length ≤ AddressMap.processSlots := by
    rw [length_shownRecords]
    exact tables.processes.fits
  rw [shownTable_eq, show AddressMap.processRecordSize = RecordKind.process.size from rfl,
    ProcessRecord.fit_flatten _ AddressMap.processSlots fits, ProcessRecord.mapM_ofBytes_rows,
    length_shownRecords]

/-- A long image shows its last page, a short one is shown whole, with zeros behind it. -/
theorem imagePage_eq (image : Bytes) :
    imagePage image =
      if 512 ≤ image.length then image.drop (image.length - 512)
      else image ++ List.replicate (512 - image.length) 0 := by
  have size : AddressMap.imagePageSize = 512 := rfl
  rw [imagePage, Bytes.fit, Bytes.length_last, size]
  split
  case isTrue long =>
    rw [Nat.min_eq_left long, Nat.sub_self, List.replicate_zero, List.append_nil,
      List.take_of_length_le (by rw [Bytes.length_last]; exact Nat.min_le_left ..), Bytes.last]
  case isFalse short =>
    have less : image.length ≤ 512 := Nat.le_of_not_le short
    have whole : image.last 512 = image := by
      rw [Bytes.last, Nat.sub_eq_zero_of_le less, List.drop_zero]
    rw [Nat.min_eq_right less, whole, List.take_of_length_le less]

/-- Kernel memory is served by its address map and by nothing else. A read never changes the
kernel. At each place of the map it gives what stands there, at any other place nothing; no two
places of the map are the same read, and so the order of the device's looks does not matter. -/
theorem serve_read_by_addressMap (kernel : Kernel) (unit : UInt8) (offset : Nat)
    (buffer : Bytes) :
    ∃ reply : Reply,
      Device.memory.serve unit (.read offset buffer) kernel = (reply, kernel) ∧
      (offset = 780 ∧ buffer.length = 2 → reply.count = 2 ∧ reply.buffer = [1, 3]) ∧
      (offset = 2694 →
        reply.count = 22 * kernel.tables.processes.size ∧
        ∃ snapshot : Bytes,
          snapshot.length = 22 * kernel.tables.processes.size ∧
          reply.buffer = (snapshot ++ List.replicate buffer.length 0).take buffer.length ∧
          ∀ slot process, kernel.tables.processes.get? slot = some process →
            ProcessRecord.ofBytes ((snapshot.drop (22 * slot)).take 22) =
              .ok { process.record with
                flags := ⟨process.record.flags.bits ||| 1⟩
                address := UInt16.ofNat (64 + slot)
                size := 8 }) ∧
      (∀ slot process, kernel.tables.processes.get? slot = some process →
        offset = 4096 + 64 * slot → buffer.length = 512 →
        reply.count = 512 ∧
        reply.buffer =
          if 512 ≤ process.image.length then process.image.drop (process.image.length - 512)
          else process.image ++ List.replicate (512 - process.image.length) 0) ∧
      (∀ line terminal, kernel.tables.terminals.get? line = some terminal →
        offset = 1024 + 32 * line → buffer.length = 32 →
        reply.count = 32 ∧ reply.buffer = terminal.header.toBytes ∧
        Terminal.Header.ofBytes reply.buffer = .ok terminal.header) ∧
      ((∀ window, ¬ Covers kernel.tables offset buffer.length window) →
        reply.count = 0 ∧ reply.buffer = buffer) ∧
      (∀ first second, Covers kernel.tables offset buffer.length first →
        Covers kernel.tables offset buffer.length second → first = second) ∧
      ∀ order : List (Tables → Nat → Nat → Option Window), order.Perm looks →
        reply =
          ((order.findSome? fun look => look kernel.tables offset buffer.length).map
            (readWindow kernel.tables buffer)).getD { buffer } := by
  refine ⟨read kernel.tables offset buffer, rfl, ?swap, ?table, ?image, ?terminal, ?outside,
    fun _ _ => Covers.unique, ?order⟩
  case swap =>
    intro inside
    rw [read_of_covers .swapDevice inside]
    exact ⟨rfl, rfl⟩
  case table =>
    rintro inside
    rw [read_of_covers .processTable inside]
    have length : (shownTable kernel.tables).length = 22 * kernel.tables.processes.size :=
      (length_shownTable kernel.tables).trans (Nat.mul_comm ..)
    exact ⟨length, shownTable kernel.tables, length, Bytes.fit_eq_take .., fun slot process found =>
      ofBytes_shownTable found⟩
  case image =>
    intro slot process found start sized
    have bounded : slot < kernel.tables.processes.size := (List.getElem?_eq_some_iff.mp found).1
    rw [read_of_covers (.image slot) ⟨bounded, start, sized⟩, readWindow, found]
    exact ⟨rfl, imagePage_eq process.image⟩
  case terminal =>
    intro line terminal found start sized
    have bounded : line < kernel.tables.terminals.size := (List.getElem?_eq_some_iff.mp found).1
    rw [read_of_covers (.terminal line) ⟨bounded, start, sized⟩, readWindow, found]
    exact ⟨rfl, rfl, Terminal.Header.ofBytes_toBytes terminal.header⟩
  case outside =>
    intro outside
    rw [read_of_not_covers outside]
    exact ⟨rfl, rfl⟩
  case order =>
    intro order reordered
    rw [findSome?_looks_of_perm reordered, read]
    cases window? kernel.tables offset buffer.length <;> rfl

/-- A header with a value of its own in every field, some of them beyond what has a name. -/
def fullHeader : Terminal.Header where
  rawQueue := ⟨-2, 0x0102, 0x0304⟩
  canonicalQueue := ⟨0x0506, 0x0708, 0x090a⟩
  outputQueue := ⟨0x0b0c, 0x0d0e, 0x0f10⟩
  modes := ⟨0xc0de⟩
  address := 0x1112
  delimiters := 0x13
  column := 0x14
  erase := 0x15
  kill := 0x16
  state := ⟨0x97⟩
  scratch := 0x18
  speeds := 0x191a
  device := 0x0401

/-- A process with a short image and two terminals, the second of them with a header that is not
the one of a fresh line. Each window is read into a buffer that is not empty, and one read finds
nothing. -/
theorem serve_read_by_addressMap_full_header :
    let kernel : Kernel :=
      { tables :=
          { processes := ⟨[⟨{ id := 7, size := 3 }, [1, 2, 3]⟩], by decide⟩
            terminals := ⟨[.fresh ⟨4, 0⟩, { header := fullHeader }], by decide⟩ } }
    let read (offset length : Nat) : Reply :=
      (Device.memory.serve 0 (.read offset (List.replicate length 0xee)) kernel).1
    (read 1056 32).count = 32 ∧
    (read 1056 32).buffer =
      [0xfe, 0xff, 2, 1, 4, 3, 6, 5, 8, 7, 0xa, 9, 0xc, 0xb, 0xe, 0xd, 0x10, 0xf, 0xde, 0xc0,
        0x12, 0x11, 0x13, 0x14, 0x15, 0x16, 0x97, 0x18, 0x1a, 0x19, 1, 4] ∧
    Terminal.Header.ofBytes (read 1056 32).buffer = .ok fullHeader ∧
    (read 780 2).buffer = [1, 3] ∧
    (read 4096 512).buffer = [1, 2, 3] ++ List.replicate 509 0 ∧
    (read 2694 10).count = 22 ∧
    (read 1056 31).buffer = List.replicate 31 0xee := by
  intro kernel read
  obtain ⟨terminal, terminalServed, -, -, -, atTerminal, -⟩ :=
    serve_read_by_addressMap kernel 0 1056 (List.replicate 32 0xee)
  obtain ⟨swap, swapServed, atSwap, -⟩ :=
    serve_read_by_addressMap kernel 0 780 (List.replicate 2 0xee)
  obtain ⟨image, imageServed, -, -, atImage, -⟩ :=
    serve_read_by_addressMap kernel 0 4096 (List.replicate 512 0xee)
  obtain ⟨table, tableServed, -, atTable, -⟩ :=
    serve_read_by_addressMap kernel 0 2694 (List.replicate 10 0xee)
  obtain ⟨nothing, nothingServed, -, -, -, -, atNone, -⟩ :=
    serve_read_by_addressMap kernel 0 1056 (List.replicate 31 0xee)
  obtain rfl : read 1056 32 = terminal := congrArg Prod.fst terminalServed
  obtain rfl : read 780 2 = swap := congrArg Prod.fst swapServed
  obtain rfl : read 4096 512 = image := congrArg Prod.fst imageServed
  obtain rfl : read 2694 10 = table := congrArg Prod.fst tableServed
  obtain rfl : read 1056 31 = nothing := congrArg Prod.fst nothingServed
  have outside (window : Window) : ¬ Covers kernel.tables 1056 31 window := by
    intro covers
    cases window <;> simp only [Covers] at covers <;> omega
  obtain ⟨count, bytes, decoded⟩ := atTerminal 1 _ rfl rfl rfl
  exact ⟨count, bytes.trans rfl, decoded, (atSwap ⟨rfl, rfl⟩).2,
    (atImage 0 _ rfl rfl List.length_replicate).2, (atTable rfl).1, (atNone outside).2⟩

end SixthEdition.Device.Memory
