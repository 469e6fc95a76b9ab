import GmsRemoteTest.Foundation.AoaProfile
import GmsRemoteTest.Lib.Lines
import GmsRemoteTest.Lib.Regex

/-! `parse_usbip_port_entries`: what the Controller reads of a port listing, line by line with three patterns; the last line of a port that
matches counts. -/
namespace GmsRemoteTest.UsbipTransaction
open Regex Regex.Pattern

def isLineBreak (c : Char) : Bool := c ∈ ['\n','\r','\x0b','\x0c','\x1c','\x1d','\x1e','\u0085','\u2028','\u2029']

def joinReturns : List Char → List Char
  | [] => []
  | c :: rest => if c = '\r' ∧ rest.head? = some '\n' then joinReturns rest else c :: joinReturns rest

def splitlines (text : List Char) : List (List Char) := Lines.splitlines isLineBreak (joinReturns text)

def isDecimal (c : Char) : Bool := (AoaProfile.decimal c).isSome

variable (isalnum : Char → Bool)

def isWord (c : Char) : Bool := c = '_' || c.isAlphanum || isDecimal c || (128 ≤ c.toNat && isalnum c)

def wordBoundary : Pattern := .assertion fun before rest => before.head?.any (isWord isalnum) != rest.head?.any (isWord isalnum)

def spaces : Pattern := .star (.char Text.isSpace)

def digits : Pattern := plus (.char isDecimal)

def isSeparator (c : Char) : Bool := c = '-' || c = '.'

def busidPattern : Pattern := .seq digits (plus (.seq (.char isSeparator) digits))

def sameLetter (letter c : Char) : Bool :=
  c.toLower = letter || (letter = 's' && c = 'ſ') || (letter = 'i' && (c = 'İ' || c = 'ı'))

def literalIgnoringCase (text : String) : Pattern := seqs (text.toList.map fun letter => .char (sameLetter letter))

def isHexOrColon (c : Char) : Bool := c.isDigit || ('a' ≤ c && c ≤ 'f') || ('A' ≤ c && c ≤ 'F') || c = ':'

def isHostChar (c : Char) : Bool := c ≠ '/' && c ≠ ':' && !Text.isSpace c

def portPattern : Pattern := seqs [spaces,literal "Port",plus (.char Text.isSpace),.group "port" digits,only ':']

def USBIP_PORT_DEVICE_RE : Pattern :=
  seqs [.assertion fun before _ => before = [],spaces,.group "busid" busidPattern,spaces,only '|',.star (.char (· ≠ '|')),only '|',
    .star (.char (· ≠ '|')),only '|',spaces,literal "Remote USB/IP host ",.group "host" (plus (.char fun c => !Text.isSpace c)),
    spaces,.assertion fun _ rest => rest = [] || rest = ['\n']]

def USBIP_PORT_URL_RE : Pattern :=
  seqs [wordBoundary isalnum,.group "local_busid" busidPattern,spaces,literal "->",spaces,literalIgnoringCase "usbip://",
    .group "host" (.alt (seqs [only '[',plus (.char isHexOrColon),only ']']) (plus (.char isHostChar))),
    optional (seqs [only ':',digits]),only '/',.group "busid" busidPattern,wordBoundary isalnum]

structure Entry where
  port : List Char
  busid : List Char := []
  host : List Char := []
  localBusid : List Char := []

def Place.captured (place : Place) (name : String) : List Char := (place.groups.lookup name).getD []

def stripBrackets (host : List Char) : List Char :=
  let bracket := fun c => c = '[' || c = ']'
  ((host.dropWhile bracket).reverse.dropWhile bracket).reverse

structure Reading where
  entries : List Entry := []
  current : Option Entry := none

def Reading.all (reading : Reading) : List Entry := reading.entries ++ reading.current.toList

def Reading.line (reading : Reading) (line : List Char) : Reading :=
  match portPattern.matchStart line with
  | some found => {entries := reading.all, current := some {port := Place.captured found "port"}}
  | none => match reading.current with
    | none => reading
    | some entry => match USBIP_PORT_DEVICE_RE.matchStart line with
      | some found => {reading with
          current := some {entry with busid := Place.captured found "busid", host := stripBrackets (Place.captured found "host")}}
      | none => match (USBIP_PORT_URL_RE isalnum).search [] line with
        | some found => {reading with current := some {entry with
            busid := Place.captured found "busid"
            host := stripBrackets (Place.captured found "host")
            localBusid := Place.captured found "local_busid" } }
        | none => reading

def parseUsbipPortEntries (output : List Char) : List Entry := ((splitlines output).foldl (Reading.line isalnum) {}).all

end GmsRemoteTest.UsbipTransaction
