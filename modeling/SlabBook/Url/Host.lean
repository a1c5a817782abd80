import SlabBook.Domain.Name
import SlabBook.Text.Percent

/-!
# Hosts

The host of a special scheme is a domain name, or an IPv4 address when it ends in a number; a
host in brackets is an IPv6 address; any other host is only kept free of characters that have a
meaning around it.  An authority is a host with credentials before it and a port behind it.
-/

namespace SlabBook.Url

def isHex (c : Char) : Bool := (Hex.digit? c).isSome

/-! ## Addresses -/

/-- The value of one part of an IPv4 address: hexadecimal after `0x`, octal after `0`, or decimal.
-/
def ipv4Part? (cs : List Char) : Option Nat :=
  let digits (radix : Nat) (ds : List Char) : Option Nat :=
    (ds.mapM fun c => (Hex.digit? c).filter (· < radix)).map (Digits.ofDigits radix)
  match cs with
  | [] => none
  | '0' :: 'x' :: ds => digits 16 ds
  | '0' :: 'X' :: ds => digits 16 ds
  | '0' :: d :: ds => digits 8 (d :: ds)
  | ds => digits 10 ds

def dropLastEmpty (parts : List (List Char)) : List (List Char) :=
  if 1 < parts.length ∧ parts.getLast? = some [] then parts.dropLast else parts

/-- Every part but the last is one byte, and the last one fills the bytes that are left. -/
def isIpv4 (parts : List (List Char)) : Bool :=
  match parts.mapM ipv4Part? with
  | none => false
  | some values =>
    decide (values.length ≤ 4) && values.dropLast.all (· ≤ 255) &&
      decide (values.getLastD 0 < Nat.pow 256 (5 - values.length))

def endsInNumber (parts : List (List Char)) : Bool :=
  match parts.getLast? with
  | none => false
  | some last => (last ≠ [] && last.all Char.isDigit) || (ipv4Part? last).isSome

/-- Four decimal bytes without leading zeros. -/
def isDottedQuad (cs : List Char) : Bool :=
  let parts := Text.split '.' cs
  parts.length == 4 && parts.all fun part =>
    part ≠ [] && part.all Char.isDigit && (part.length == 1 || part.head? ≠ some '0') &&
      (ipv4Part? part).any (· ≤ 255)

/-- The pieces of an IPv6 address that still have room; `compressed` once a double colon was met.
-/
def ipv6From : (room : Nat) → (compressed : Bool) → List Char → Bool
  | room, compressed, [] => compressed || room == 0
  | 0, _, _ :: _ => false
  | room + 1, compressed, ':' :: rest => !compressed && ipv6From room true rest
  | room + 1, compressed, cs =>
    let piece := (cs.takeWhile isHex).take 4
    match cs.drop piece.length with
    | [] => compressed || room == 0
    | '.' :: _ =>
      piece ≠ [] && 1 ≤ room && isDottedQuad cs && (compressed || room == 1)
    | ':' :: rest => rest ≠ [] && ipv6From room compressed rest
    | _ => false

def isIpv6 : List Char → Bool
  | ':' :: ':' :: rest => ipv6From 7 true rest
  | ':' :: _ => false
  | cs => ipv6From 8 false cs

/-! ## Hosts -/

def isDomain (cs : List Char) : Bool :=
  let labels := (Percent.text? cs).bind fun text => Domain.labels? text.toList
  labels.any fun labels =>
    let parts := dropLastEmpty labels
    !endsInNumber parts || isIpv4 parts

def isHost (special : Bool) (cs : List Char) : Bool :=
  match cs with
  | '[' :: rest => rest.getLast? = some ']' && isIpv6 rest.dropLast
  | _ => if special then isDomain cs else cs.all (!Domain.isReserved ·)

/-! ## Authorities -/

/-- Host and, after a colon outside brackets, port. -/
def splitPort : (bracketed : Bool) → List Char → List Char × Option (List Char)
  | _, [] => ([], none)
  | bracketed, c :: rest =>
    if c = ':' ∧ !bracketed then ([], some rest)
    else
      let inside := if c = '[' then true else if c = ']' then false else bracketed
      let (host, port) := splitPort inside rest
      (c :: host, port)

def isPort (cs : List Char) : Bool :=
  cs.all Char.isDigit &&
    decide (Digits.ofDigits 10 (cs.map fun c => c.toNat - 48) ≤ 65535)

/-- What follows the last `@`, and whether there is one. -/
def afterCredentials (cs : List Char) : Bool × List Char :=
  (cs.contains '@', (cs.reverse.takeWhile (· ≠ '@')).reverse)

def isAuthority (special : Bool) (cs : List Char) : Bool :=
  let (credentials, rest) := afterCredentials cs
  let (host, port) := splitPort false rest
  !(credentials && rest.isEmpty) && !(host.isEmpty && (special || port.isSome)) &&
    (host.isEmpty || isHost special host) && isPort (port.getD [])

end SlabBook.Url
