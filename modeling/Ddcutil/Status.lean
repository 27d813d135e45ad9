import Ddcutil.Kit.Exec
/-!
# Status — bytes, paths, status codes and `Error_Info`

The codes of `ddcutil_status_codes.h` that the modelled functions produce or test, the errno values they compare with,
and the error record of `error_info.h`.  A `NULL` error pointer is `none`.
-/
namespace Ddc

abbrev Byte := UInt8

inductive IoPath where
  | i2c (busno : Nat)
  | usb (hiddevDevno : Nat)
  deriving DecidableEq, Repr

def IoPath.busno : IoPath → Nat
  | .i2c busno => busno
  | .usb hiddevDevno => hiddevDevno

/-- `Public_Status_Code` and `Status_DDC`: 0, a negative errno or a negative `DDCRC_` code. -/
abbrev Status := Int

def rcrangeDdcStart : Int := 3000

def ddcrcOk : Status := 0
def ddcrcDdcData : Status := -(rcrangeDdcStart + 1)
def ddcrcNullResponse : Status := -(rcrangeDdcStart + 2)
def ddcrcMultiPartReadFragment : Status := -(rcrangeDdcStart + 3)
def ddcrcAllTriesZero : Status := -(rcrangeDdcStart + 4)
def ddcrcReportedUnsupported : Status := -(rcrangeDdcStart + 5)
def ddcrcReadAllZero : Status := -(rcrangeDdcStart + 6)
def ddcrcRetries : Status := -(rcrangeDdcStart + 7)
def ddcrcEdid : Status := -(rcrangeDdcStart + 8)
def ddcrcAllResponsesNull : Status := -(rcrangeDdcStart + 11)
def ddcrcDeterminedUnsupported : Status := -(rcrangeDdcStart + 12)
def ddcrcArg : Status := -(rcrangeDdcStart + 13)
def ddcrcInvalidOperation : Status := -(rcrangeDdcStart + 14)
def ddcrcUnimplemented : Status := -(rcrangeDdcStart + 15)
def ddcrcUninitialized : Status := -(rcrangeDdcStart + 16)
def ddcrcUnknownFeature : Status := -(rcrangeDdcStart + 17)
def ddcrcInvalidDisplay : Status := -(rcrangeDdcStart + 20)
def ddcrcInternalError : Status := -(rcrangeDdcStart + 21)
def ddcrcOther : Status := -(rcrangeDdcStart + 22)
def ddcrcVerify : Status := -(rcrangeDdcStart + 23)
def ddcrcNotFound : Status := -(rcrangeDdcStart + 24)
def ddcrcLocked : Status := -(rcrangeDdcStart + 25)
def ddcrcAlreadyOpen : Status := -(rcrangeDdcStart + 26)
def ddcrcBadData : Status := -(rcrangeDdcStart + 27)
def ddcrcConfigError : Status := -(rcrangeDdcStart + 28)
def ddcrcDisconnected : Status := -(rcrangeDdcStart + 29)
def ddcrcQuiesced : Status := -(rcrangeDdcStart + 32)

def eNoent : Int := 2
def eIo : Int := 5
def eNxio : Int := 6
def eBadf : Int := 9
def eBusy : Int := 16
def eBadmsg : Int := 74

/-- `Error_Info`: the status, the function that made it, an explanation and the errors that led to it. -/
structure ErrorInfo where
  statusCode : Status
  func : String
  detail : Option String
  causes : List ErrorInfo

def errinfoNew (statusCode : Status) (func : String) : ErrorInfo := ⟨statusCode, func, none, []⟩

def errinfoNewWithCauses (statusCode : Status) (causes : List ErrorInfo) (func : String) : ErrorInfo :=
  ⟨statusCode, func, none, causes⟩

def errinfoStatus (erec : Option ErrorInfo) : Status :=
  match erec with
  | some e => e.statusCode
  | none => 0

/-- `errinfo_all_causes_same_status`: there are causes, and each has the status asked for, or the first's when that
is 0. -/
def errinfoAllCausesSameStatus (erec : Option ErrorInfo) (statusCode : Status) : Bool :=
  match erec with
  | none => false
  | some e =>
    match e.causes with
    | [] => false
    | c :: cs => (c :: cs).all fun x => x.statusCode == if statusCode = 0 then c.statusCode else statusCode

def maxMaxTries : Nat := 15

/-- **A number of tries `try_data_set_maxtries2` admits.** -/
structure MaxTries where
  val : Nat
  pos : 1 ≤ val
  le : val ≤ maxMaxTries

def initialMaxWriteOnlyExchangeTries : MaxTries := ⟨4, by decide, by decide⟩
def initialMaxWriteReadExchangeTries : MaxTries := ⟨10, by decide, by decide⟩

end Ddc
