import PartitionHost.Address.Domain
import PartitionHost.Address.Inet4
import PartitionHost.Address.Inet6

/-!
# Addresses of brokers

The address of a broker is a URL: a scheme, and behind it, after two slashes, perhaps a user, a machine
and a port. What follows these makes no difference. The schemes of the web need a machine, name it by
rules of their own, and do not mind which slashes come first, or how many.
-/

namespace PartitionHost

inductive Scheme where
  | nats
  | tls
  | ws
  | wss
deriving DecidableEq, Repr

namespace Scheme

def ofName? : String → Option Scheme
  | "nats" => some .nats
  | "tls" => some .tls
  | "ws" => some .ws
  | "wss" => some .wss
  | _ => none

def isWeb : Scheme → Bool
  | .ws | .wss => true
  | .nats | .tls => false

end Scheme

inductive Machine where
  | domain (labels : List (List Char))
  | inet4 (number : Nat)
  | inet6 (pieces : List Nat)
  /-- A name that is given to the broker's client as it is. -/
  | named (name : String)
deriving DecidableEq, Repr

namespace Machine

/-- Whether a character cannot stand in a name that is given on as it is. -/
def isForbidden (c : Char) : Bool := "\x00\t\n\r #/:<>?@[\\]^|".toList.contains c

def ofText? (isWeb : Bool) : List Char → Option Machine
  | '[' :: cs => if cs.getLast? = some ']' then (Address.Inet6.ofText? cs.dropLast).map .inet6 else none
  | cs =>
    if isWeb then do
      let labels ← Address.Domain.ofText? cs
      if Address.Inet4.isMeant labels then (Address.Inet4.ofParts? labels).map .inet4
      else return .domain labels
    else if cs.any isForbidden then none
    else some (.named (String.ofList cs))

end Machine

structure Address where
  scheme : Scheme
  /-- The machine; a client of its own accord takes the one that it runs on. -/
  machine : Option Machine := none
  /-- The port; each scheme has one of its own for the case that none is given. -/
  port : Option Nat := none
deriving DecidableEq, Repr

namespace Address

/-! ## The parts of a text -/

/-- Whether a character ends the user, machine and port of an address. -/
def isEnd (isWeb : Bool) (c : Char) : Bool := c = '/' || c = '?' || c = '#' || (isWeb && c = '\\')

/--
Takes the user away, who stands in front of the last at sign; the answer also tells whether there is one.
It is a fault if neither a user nor a machine stands beside the sign and something follows.
-/
def takeUser? (isWeb : Bool) (cs : List Char) : Option (Bool × List Char) :=
  let authority := cs.takeWhile (!isEnd isWeb ·)
  if authority.contains '@' then
    let user := ((authority.reverse.dropWhile (· ≠ '@')).drop 1).reverse
    let rest := cs.drop (user.length + 1)
    if user.isEmpty && rest.head?.any (isEnd isWeb) then none
    else some (!user.isEmpty && user != [':'], rest)
  else some (false, cs)

/-- The text of the machine, which a colon outside of brackets ends too, and what follows. -/
def spanMachine (isWeb inside : Bool) : List Char → List Char × List Char
  | [] => ([], [])
  | c :: cs =>
    if (c = ':' && !inside) || isEnd isWeb c then ([], c :: cs)
    else
      let (machine, rest) := spanMachine isWeb ((inside || c = '[') && c ≠ ']') cs
      (c :: machine, rest)

def port? (cs : List Char) : Option (Option Nat) :=
  let ds := cs.takeWhile Char.isDigit
  let port := Text.ofDigits ds
  if port < 65536 && !((cs.drop ds.length).head?.any (!isEnd true ·)) then
    some (if ds.isEmpty then none else some port)
  else none

def ofAuthority? (scheme : Scheme) (cs : List Char) : Option Address := do
  let web := scheme.isWeb
  let (hasUser, cs) ← takeUser? web cs
  match spanMachine web false cs with
  | ([], rest) => if web || hasUser || rest.head? = some ':' then none else return ⟨scheme, none, none⟩
  | (text, ':' :: rest) => return ⟨scheme, ← Machine.ofText? web text, ← port? rest⟩
  | (text, _) => return ⟨scheme, ← Machine.ofText? web text, none⟩

def isSchemeChar (c : Char) : Bool := c.isAlphanum || c = '+' || c = '-' || c = '.'

def scheme? (cs : List Char) : Option (Scheme × List Char) :=
  let name := cs.takeWhile isSchemeChar
  match cs.drop name.length with
  | ':' :: rest => (Scheme.ofName? (String.ofList name).toLower).map (·, rest)
  | _ => none

/-- A text without blanks and control characters at its ends, and without tabs and line ends anywhere. -/
def tidied (cs : List Char) : List Char :=
  let isBlank (c : Char) : Bool := c.toNat ≤ 0x20
  let trimmed := ((cs.dropWhile isBlank).reverse.dropWhile isBlank).reverse
  trimmed.filter fun c => c ≠ '\t' && c ≠ '\n' && c ≠ '\r'

def ofText? (s : String) : Option Address := do
  let (scheme, rest) ← scheme? (tidied s.toList)
  if scheme.isWeb then ofAuthority? scheme (rest.dropWhile fun c => c = '/' || c = '\\')
  else match rest with
    | '/' :: '/' :: rest => ofAuthority? scheme rest
    | _ => return ⟨scheme, none, none⟩

end Address

end PartitionHost
