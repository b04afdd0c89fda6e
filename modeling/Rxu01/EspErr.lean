set_option autoImplicit false

/- `esp_err_t`, with the values this firmware gives out itself or asks for. -/
namespace EspIdf

abbrev EspErr : Type := Int32

abbrev espOk : EspErr := 0
abbrev espFail : EspErr := -1
abbrev espErrNoMem : EspErr := 0x101
abbrev espErrInvalidArg : EspErr := 0x102
abbrev espErrInvalidState : EspErr := 0x103

end EspIdf
