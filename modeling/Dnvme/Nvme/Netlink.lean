import Dnvme.Lib.ByteMemory
import Dnvme.Nvme.Types

/-!
# Generic netlink messages

A message is a header of 16 bytes, one of 4 bytes and a sequence of attributes,
each with its length and type in front and padded to 4 bytes.  The library
builds the requests attribute by attribute, and walks over the attributes of a
reply.

The length of the whole message is one of its own first bytes.  What a walk
reads is kept beside its result, because the reply is shorter than its buffer.
-/

namespace Dnvme.Nvme.Netlink

open Dnvme.Driver
open Dnvme.Nvme
open Dnvme.Lib.ByteMemory

/-! ## Messages -/

/-- `struct nl_msg`: the bytes at `nm_nlh` and the size of the buffer. -/
structure NlMsg where
  nmNlh : Memory
  nmSize : Nat

/-- `NLMSG_HDRLEN`. -/
def nlmsgHdrlen : Nat := 16

/-- `GENL_HDRLEN`. -/
def genlHdrlen : Nat := 4

/-- `NLA_HDRLEN`. -/
def nlaHdrlen : Nat := 4

/-- `NLMSG_ALIGN` and `NLA_ALIGN`. -/
def nlaAlign (len : Nat) : Nat :=
  (len + 3) / 4 * 4

theorem nlaAlign_bounds (len : Nat) :
    len ≤ nlaAlign len ∧ nlaAlign len < len + 4 ∧ nlaAlign len % 4 = 0 := by
  unfold nlaAlign
  omega

theorem nlaAlign_of_aligned {len : Nat} (aligned : len % 4 = 0) :
    nlaAlign len = len := by
  unfold nlaAlign
  omega

/-- `nlmsg_len`. -/
def nlmsgLen (nlh : Memory) : Nat :=
  nlh.number 0 4

/-- Store `nlmsg_len`. -/
def setNlmsgLen (nlh : Memory) (len : Nat) : Memory :=
  nlh.write 0 (numberBytes 4 len)

/-- `__nlmsg_alloc`, when there is memory. -/
def nlmsgAlloc (len : Nat) : Run NlMsg :=
  if len < nlaAlign nlmsgHdrlen then .error .bugOn
  else .ok ⟨setNlmsgLen (fun _ => 0) (nlaAlign nlmsgHdrlen), len⟩

/-- `nlmsg_reserve`, for a `pad` that is zero or a power of two. -/
def nlmsgReserve (n : NlMsg) (len pad : Nat) : Option (Nat × NlMsg) :=
  let nlmsgLen := nlmsgLen n.nmNlh
  let tlen := if pad ≠ 0 then (len + (pad - 1)) / pad * pad else len
  if tlen + nlmsgLen > n.nmSize then none
  else
    let nlh := setNlmsgLen n.nmNlh (nlmsgLen + tlen)
    let nlh :=
      if tlen > len then
        nlh.write (nlmsgLen + len) (List.replicate (tlen - len) 0)
      else nlh
    some (nlmsgLen, { n with nmNlh := nlh })

/-- The fields of the header that `nlmsg_put` fills. -/
structure NlmsgFields where
  port : Nat
  seq : Nat
  type : Nat
  flags : Nat

/-- `nlmsg_put`; it gives the offset of the payload. -/
def nlmsgPut (n : NlMsg) (fields : NlmsgFields) (payload : Nat) :
    Option (Nat × NlMsg) :=
  let nlh := n.nmNlh.write 4 (numberBytes 2 fields.type)
  let nlh := nlh.write 6 (numberBytes 2 fields.flags)
  let nlh := nlh.write 8 (numberBytes 4 fields.seq)
  let nlh := nlh.write 12 (numberBytes 4 fields.port)
  let n := { n with nmNlh := nlh }
  if payload > 0 then
    (nlmsgReserve n payload 4).map fun reserved => (nlmsgHdrlen, reserved.2)
  else some (nlmsgHdrlen, n)

/-- `genlmsg_put`. -/
def genlmsgPut (msg : NlMsg) (fields : NlmsgFields) (cmd version : Nat) :
    Run NlMsg :=
  (nlmsgPut msg fields genlHdrlen).elim (.error .bugOn) fun put =>
    let nlh := put.2.nmNlh.write put.1 (numberBytes 1 cmd)
    .ok { put.2 with
      nmNlh := nlh.write (put.1 + 1) (numberBytes 1 version) }

/-! ## Writing attributes -/

/-- `nla_attr_size`. -/
def nlaAttrSize (payload : Nat) : Int :=
  s32 (nlaHdrlen + payload : Nat)

/-- `nla_total_size`.  A sum that leaves the signed numbers is taken to come
back at their other end. -/
def nlaTotalSize (payload : Nat) : Int :=
  s32 (nlaAttrSize payload + 3) / 4 * 4

/-- `nla_padlen`. -/
def nlaPadlen (payload : Nat) : Int :=
  s32 (nlaTotalSize payload - nlaAttrSize payload)

/-- The header of an attribute and the padding behind its payload. -/
def nlaFill (nlh : Memory) (nla attrtype attrlen : Nat) : Memory :=
  let nlh := nlh.write (nla + 2) (numberBytes 2 attrtype)
  let nlh := nlh.write nla (numberBytes 2 (nlaHdrlen + attrlen))
  if attrlen ≠ 0 ∧ nlaPadlen attrlen ≠ 0 then
    nlh.write (nla + nlh.number nla 2)
      (List.replicate (nlaPadlen attrlen).toNat 0)
  else nlh

/-- `nla_reserve`; it gives the offset of the attribute.  The comparison with
the size of the buffer is one of unsigned numbers. -/
def nlaReserve (msg : NlMsg) (attrtype attrlen : Nat) :
    Option (Nat × NlMsg) :=
  let nla := nlaAlign (nlmsgLen msg.nmNlh)
  let total := s32 (nla + nlaTotalSize attrlen)
  if total % 2 ^ 64 > msg.nmSize then none
  else
    some (nla, { msg with
      nmNlh := setNlmsgLen (nlaFill msg.nmNlh nla attrtype attrlen)
        total.toNat })

/-- The copy of the payload in `nla_put`. -/
def nlaStore (data : List (BitVec 8)) (nla : Nat) (msg : NlMsg) : NlMsg :=
  if data.length > 0 then
    { msg with nmNlh := msg.nmNlh.write (nla + nlaHdrlen) data }
  else msg

/-- `nla_put`. -/
def nlaPut (msg : NlMsg) (attrtype : Nat) (data : List (BitVec 8)) :
    Int × NlMsg :=
  (nlaReserve msg attrtype data.length).elim (-Errno.ENOMEM, msg)
    fun reserved => (0, nlaStore data reserved.1 reserved.2)

/-! ## Walking over attributes -/

/-- `nla_len` as it is stored in an attribute. -/
def nlaLenOf (nlh : Memory) (nla : Nat) : Nat :=
  nlh.number nla 2

/-- `nla_type`. -/
def nlaType (nlh : Memory) (nla : Nat) : Nat :=
  nlh.number (nla + 2) 2 % 2 ^ 14

/-- A range of bytes that is read: where it starts and how long it is. -/
abbrev Range := Nat × Nat

/-- The state of a walk: the table, the bytes that remain and what was
read. -/
structure Walked where
  tb : Nat → Option Nat
  rem : Int
  reads : List Range

/-- `nla_ok`, with what it reads.  The first comparison is one of unsigned
numbers and the last one of signed numbers. -/
def nlaOk (nlh : Memory) (nla : Nat) (remaining : Int) :
    Bool × List Range :=
  if remaining % 2 ^ 64 ≥ 4 then
    (nlaLenOf nlh nla ≥ 4 ∧ (nlaLenOf nlh nla : Int) ≤ remaining, [(nla, 2)])
  else (false, [])

/-- An attribute is entered into the table. -/
def enter (maxtype type nla : Nat) (tb : Nat → Option Nat) :
    Nat → Option Nat :=
  if type > maxtype then tb else Function.update tb type (some nla)

/-- The loop of `nla_parse`. -/
def nlaParseLoop (nlh : Memory) (maxtype : Nat) :
    Nat → Nat → Walked → Run Walked
  | 0, _, _ => .error .endlessLoop
  | fuel + 1, nla, walked =>
      let seen := nlaOk nlh nla walked.rem
      let reads := walked.reads ++ seen.2
      if seen.1 then
        let totlen := nlaAlign (nlaLenOf nlh nla)
        nlaParseLoop nlh maxtype fuel (nla + totlen)
          { tb := enter maxtype (nlaType nlh nla) nla walked.tb
            rem := walked.rem - totlen
            reads := reads ++ [(nla + 2, 2)] }
      else .ok { walked with reads := reads }

/-- `nla_parse`.  A turn leaves fewer bytes, so a loop that takes more turns
than there are bytes never ends. -/
def nlaParse (nlh : Memory) (maxtype head : Nat) (len : Int) : Run Walked :=
  nlaParseLoop nlh maxtype (len.toNat + 1) head ⟨fun _ => none, len, []⟩

/-- `genlmsg_len`. -/
def genlmsgLen (nlh : Memory) : Int :=
  s32 (nlmsgLen nlh - (genlHdrlen + nlmsgHdrlen : Nat))

/-- `genlmsg_attrlen`. -/
def genlmsgAttrlen (nlh : Memory) (hdrlen : Nat) : Int :=
  s32 (genlmsgLen nlh - nlaAlign hdrlen)

/-- `genlmsg_valid_hdr`; both comparisons are ones of unsigned numbers. -/
def genlmsgValidHdr (nlh : Memory) (hdrlen : Nat) : Bool :=
  nlmsgHdrlen + genlHdrlen ≤ nlmsgLen nlh ∧
    (nlaAlign hdrlen : Int) ≤ genlmsgLen nlh % 2 ^ 32

/-- `genlmsg_parse`. -/
def genlmsgParse (nlh : Memory) (hdrlen maxtype : Nat) :
    Run (Int × Walked) :=
  if genlmsgValidHdr nlh hdrlen then do
    let walked ← nlaParse nlh maxtype
      (nlmsgHdrlen + genlHdrlen + nlaAlign hdrlen) (genlmsgAttrlen nlh hdrlen)
    return (0, walked)
  else return (-Errno.EPERM, ⟨fun _ => none, 0, []⟩)

/-! ## The reply to a reap -/

/-- `NVME_GNL_CMD_REAP_CQE`. -/
def nvmeGnlCmdReapCqe : Nat := 1

/-- `NVME_GNL_ATTR_OPT_NUM`. -/
def nvmeGnlAttrOptNum : Nat := 5

/-- `NVME_GNL_ATTR_OPT_STATUS`. -/
def nvmeGnlAttrOptStatus : Nat := 9

/-- `NVME_GNL_ATTR_MAX`. -/
def nvmeGnlAttrMax : Nat := 9

/-- `nla_get_s32`. -/
def nlaGetS32 (nlh : Memory) (nla : Nat) : Int × List Range :=
  (s32 (nlh.number (nla + nlaHdrlen) 4), [(nla + nlaHdrlen, 4)])

/-- `nla_get_u32`. -/
def nlaGetU32 (nlh : Memory) (nla : Nat) : Nat × List Range :=
  (nlh.number (nla + nlaHdrlen) 4, [(nla + nlaHdrlen, 4)])

/-- What `nvme_gnl_cmd_reap_cqe_timeout` takes out of the parsed reply. -/
def reapAnswer (nlh : Memory) (walked : Walked) : Int × List Range :=
  if nlh.number nlmsgHdrlen 1 ≠ nvmeGnlCmdReapCqe then (-Errno.EPERM, [])
  else
    match walked.tb nvmeGnlAttrOptStatus with
    | none => (-Errno.EPERM, [])
    | some status =>
        let (ret, first) := nlaGetS32 nlh status
        if ret < 0 then (ret, first)
        else
          match walked.tb nvmeGnlAttrOptNum with
          | none => (-Errno.EPERM, first)
          | some num =>
              let (count, second) := nlaGetU32 nlh num
              (s32 count, first ++ second)

/-- `nvme_gnl_cmd_reap_cqe_timeout` from the reply on: what it returns, the
table and all that was read. -/
def reapReply (nlh : Memory) : Run (Int × Walked) := do
  let (ret, walked) ← genlmsgParse nlh 0 nvmeGnlAttrMax
  if ret < 0 then return (ret, walked)
  else
    let (ret, reads) := reapAnswer nlh walked
    return (ret, { walked with reads := walked.reads ++ reads })

end Dnvme.Nvme.Netlink
