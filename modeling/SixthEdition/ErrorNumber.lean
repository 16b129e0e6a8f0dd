/-
This file holds the error numbers that a kernel call leaves in its caller's
error slot. The numbers 1 to 31 have names, and so has 106, which stands apart;
any other number is a valid slot content without a name.
-/

import SixthEdition.Numeral

namespace SixthEdition

structure ErrorNumber where
  raw : Int8
  deriving DecidableEq

namespace ErrorNumber

/-- Operation not permitted. -/
def eperm : ErrorNumber := ⟨1⟩

/-- No such device or address. -/
def enxio : ErrorNumber := ⟨6⟩

/-- Not a terminal. -/
def enotty : ErrorNumber := ⟨24⟩

/-- The numbers that have a name, in ascending order. -/
def names : List (Int8 × String) :=
  [(1, "EPERM"), (2, "ENOENT"), (3, "ESRCH"), (4, "EINTR"), (5, "EIO"), (6, "ENXIO"),
    (7, "E2BIG"), (8, "ENOEXEC"), (9, "EBADF"), (10, "ECHILD"), (11, "EAGAIN"), (12, "ENOMEM"),
    (13, "EACCES"), (14, "ENOTBLK"), (15, "EBUSY"), (16, "EEXIST"), (17, "EXDEV"),
    (18, "ENODEV"), (19, "ENOTDIR"), (20, "EISDIR"), (21, "EINVAL"), (22, "ENFILE"),
    (23, "EMFILE"), (24, "ENOTTY"), (25, "ETXTBSY"), (26, "EFBIG"), (27, "ENOSPC"),
    (28, "ESPIPE"), (29, "EROFS"), (30, "EMLINK"), (31, "EPIPE"), (106, "EFAULT")]

def name? (code : ErrorNumber) : Option String :=
  names.lookup code.raw

def ofName? (name : String) : Option ErrorNumber :=
  (names.find? (·.2 == name)).map (⟨·.1⟩)

/-- Every code that has a name, in ascending order. -/
def named : List ErrorNumber :=
  names.map (⟨·.1⟩)

/-- The name, or the number in brackets where there is none. -/
def text (code : ErrorNumber) : String :=
  match code.name? with
  | some name => name
  | none => "Errno(" ++ String.ofList (Numeral.signed code.raw.toInt) ++ ")"

/-- The codes in ascending order of their numbers, each once. -/
def ascending (codes : List ErrorNumber) : List ErrorNumber :=
  (codes.mergeSort fun first second => decide (first.raw ≤ second.raw)).eraseReps

end ErrorNumber

end SixthEdition
