/-
This file holds terminals: a header and the three character queues behind it.
The counts in the header follow the queues only when an operation refreshes
them; opening and closing a line, or setting a header field, does not.
-/

import SixthEdition.Terminal.Header

namespace SixthEdition

structure Terminal where
  header : Terminal.Header
  /-- Input that has not been cut into lines. -/
  raw : Bytes := []
  /-- The rest of the line that is being read. -/
  canonical : Bytes := []
  /-- Output that the line has not taken yet. -/
  output : Bytes := []
  deriving DecidableEq

namespace Terminal

def fresh (device : DeviceNumber) : Terminal where
  header := .fresh device

/-- The count shown for a queue: the largest signed word stands for any longer queue too. -/
def shownCount (queue : Bytes) : Int16 :=
  Int16.ofNat (min queue.length 32767)

def refreshCounts (terminal : Terminal) : Terminal :=
  { terminal with
    header.rawQueue.count := shownCount terminal.raw
    header.canonicalQueue.count := shownCount terminal.canonical
    header.outputQueue.count := shownCount terminal.output }

/-! ### Opening and closing -/

def isOpen (terminal : Terminal) : Bool :=
  terminal.header.state.has .isOpen

/-- Opening a line that is not open gives it the default erase and kill characters. -/
def openLine (terminal : Terminal) : Terminal :=
  let header :=
    if terminal.isOpen then terminal.header
    else { terminal.header with erase := defaultErase, kill := defaultKill }
  { terminal with
    header := { header with state := (header.state.adding .isOpen).adding .carrier } }

def closeLine (terminal : Terminal) : Terminal :=
  { terminal with header.state := terminal.header.state.without .isOpen }

/-! ### Settings -/

/-- What a program reads and sets of a line, as three words. -/
structure Settings where
  speeds : UInt16
  /-- The erase character in the low byte, the kill character in the high byte. -/
  editing : UInt16
  modes : UInt16
  deriving DecidableEq

def settings (terminal : Terminal) : Settings where
  speeds := terminal.header.speeds
  editing := terminal.header.erase.toUInt16 ||| (terminal.header.kill.toUInt16 <<< 8)
  modes := terminal.header.modes.bits

/-- Sets the line and forgets all input that waits. -/
def configure (settings : Settings) (terminal : Terminal) : Terminal :=
  refreshCounts
    { terminal with
      raw := []
      canonical := []
      header.delimiters := 0
      header.speeds := settings.speeds
      header.erase := settings.editing.toUInt8
      header.kill := (settings.editing >>> 8).toUInt8
      header.modes := ⟨settings.modes⟩ }

end Terminal

end SixthEdition
