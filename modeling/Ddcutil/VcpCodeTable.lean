import Ddcutil.VcpFeatureTable
/-!
# VcpCodeTable — the features that the program knows

`vcp_code_table[]` and the value tables it points to, as the source has them.
-/
namespace Ddc

/-! ## Value tables -/

def x02NewControlValues : List FeatureValueEntry := [
  ⟨0x01, ascii "No new control values"⟩, ⟨0x02, ascii "One or more new control values have been saved"⟩,
  ⟨0xff, ascii "No user controls are present"⟩]

def x03SoftControlsValues : List FeatureValueEntry := [
  ⟨0x00, ascii "No button active"⟩, ⟨0x01, ascii "Button 1 active"⟩, ⟨0x02, ascii "Button 2 active"⟩,
  ⟨0x03, ascii "Button 3 active"⟩, ⟨0x04, ascii "Button 4 active"⟩, ⟨0x05, ascii "Button 5 active"⟩,
  ⟨0x06, ascii "Button 6 active"⟩, ⟨0x07, ascii "Button 7 active"⟩, ⟨0xff, ascii "No user controls are present"⟩]

def x14ColorPresetAbsoluteValues : List FeatureValueEntry := [
  ⟨0x01, ascii "sRGB"⟩, ⟨0x02, ascii "Display Native"⟩, ⟨0x03, ascii "4000 K"⟩, ⟨0x04, ascii "5000 K"⟩,
  ⟨0x05, ascii "6500 K"⟩, ⟨0x06, ascii "7500 K"⟩, ⟨0x07, ascii "8200 K"⟩, ⟨0x08, ascii "9300 K"⟩,
  ⟨0x09, ascii "10000 K"⟩, ⟨0x0a, ascii "11500 K"⟩, ⟨0x0b, ascii "User 1"⟩, ⟨0x0c, ascii "User 2"⟩,
  ⟨0x0d, ascii "User 3"⟩]

def x14ColorPresetTolerances : List FeatureValueEntry := [
  ⟨0x00, ascii "Unspecified"⟩, ⟨0x01, ascii "1%"⟩, ⟨0x02, ascii "2%"⟩, ⟨0x03, ascii "3%"⟩, ⟨0x04, ascii "4%"⟩,
  ⟨0x05, ascii "5%"⟩, ⟨0x06, ascii "6%"⟩, ⟨0x07, ascii "7%"⟩, ⟨0x08, ascii "8%"⟩, ⟨0x09, ascii "9%"⟩,
  ⟨0x0a, ascii "10%"⟩]

def x1eX1fAutoSetupValues : List FeatureValueEntry := [
  ⟨0x00, ascii "Auto setup not active"⟩, ⟨0x01, ascii "Performing auto setup"⟩,
  ⟨0x02, ascii "Enable continuous/periodic auto setup"⟩]

def x60V2InputSourceValues : List FeatureValueEntry := [
  ⟨0x01, ascii "VGA-1"⟩, ⟨0x02, ascii "VGA-2"⟩, ⟨0x03, ascii "DVI-1"⟩, ⟨0x04, ascii "DVI-2"⟩,
  ⟨0x05, ascii "Composite video 1"⟩, ⟨0x06, ascii "Composite video 2"⟩, ⟨0x07, ascii "S-Video-1"⟩,
  ⟨0x08, ascii "S-Video-2"⟩, ⟨0x09, ascii "Tuner-1"⟩, ⟨0x0a, ascii "Tuner-2"⟩, ⟨0x0b, ascii "Tuner-3"⟩,
  ⟨0x0c, ascii "Component video (YPrPb/YCrCb) 1"⟩, ⟨0x0d, ascii "Component video (YPrPb/YCrCb) 2"⟩,
  ⟨0x0e, ascii "Component video (YPrPb/YCrCb) 3"⟩, ⟨0x0f, ascii "DisplayPort-1"⟩, ⟨0x10, ascii "DisplayPort-2"⟩,
  ⟨0x11, ascii "HDMI-1"⟩, ⟨0x12, ascii "HDMI-2"⟩]

def x63SpeakerSelectValues : List FeatureValueEntry := [
  ⟨0x00, ascii "Front L/R"⟩, ⟨0x01, ascii "Side L/R"⟩, ⟨0x02, ascii "Rear L/R"⟩, ⟨0x03, ascii "Center/Subwoofer"⟩]

def x66AmbientLightSensorValues : List FeatureValueEntry := [
  ⟨0x01, ascii "Disabled"⟩, ⟨0x02, ascii "Enabled"⟩]

def x82HorizontalFlipValues : List FeatureValueEntry := [
  ⟨0x00, ascii "Normal mode"⟩, ⟨0x01, ascii "Mirrored horizontally mode"⟩]

def x84VerticalFlipValues : List FeatureValueEntry := [
  ⟨0x00, ascii "Normal mode"⟩, ⟨0x01, ascii "Mirrored vertically mode"⟩]

def x8bTvChannelValues : List FeatureValueEntry := [
  ⟨0x01, ascii "Increment channel"⟩, ⟨0x02, ascii "Decrement channel"⟩]

def x8dTvAudioMuteSourceValues : List FeatureValueEntry := [
  ⟨0x01, ascii "Mute the audio"⟩, ⟨0x02, ascii "Unmute the audio"⟩]

def x8dShBlankScreenValues : List FeatureValueEntry := [
  ⟨0x01, ascii "Blank the screen"⟩, ⟨0x02, ascii "Unblank the screen"⟩]

def x86DisplayScalingValues : List FeatureValueEntry := [
  ⟨0x01, ascii "No scaling"⟩, ⟨0x02, ascii "Max image, no aspect ration distortion"⟩,
  ⟨0x03, ascii "Max vertical image, no aspect ratio distortion"⟩,
  ⟨0x04, ascii "Max horizontal image, no aspect ratio distortion"⟩,
  ⟨0x05, ascii "Max vertical image with aspect ratio distortion"⟩,
  ⟨0x06, ascii "Max horizontal image with aspect ratio distortion"⟩,
  ⟨0x07, ascii "Linear expansion (compression) on horizontal axis"⟩,
  ⟨0x08, ascii "Linear expansion (compression) on h and v axes"⟩, ⟨0x09, ascii "Squeeze mode"⟩,
  ⟨0x0a, ascii "Non-linear expansion"⟩]

def x87SharpnessValues : List FeatureValueEntry := [
  ⟨0x01, ascii "Filter function 1"⟩, ⟨0x02, ascii "Filter function 2"⟩, ⟨0x03, ascii "Filter function 3"⟩,
  ⟨0x04, ascii "Filter function 4"⟩]

def x94AudioStereoModeValues : List FeatureValueEntry := [
  ⟨0x00, ascii "Speaker off/Audio not supported"⟩, ⟨0x01, ascii "Mono"⟩, ⟨0x02, ascii "Stereo"⟩,
  ⟨0x03, ascii "Stereo expanded"⟩, ⟨0x11, ascii "SRS 2.0"⟩, ⟨0x12, ascii "SRS 2.1"⟩, ⟨0x13, ascii "SRS 3.1"⟩,
  ⟨0x14, ascii "SRS 4.1"⟩, ⟨0x15, ascii "SRS 5.1"⟩, ⟨0x16, ascii "SRS 6.1"⟩, ⟨0x17, ascii "SRS 7.1"⟩,
  ⟨0x21, ascii "Dolby 2.0"⟩, ⟨0x22, ascii "Dolby 2.1"⟩, ⟨0x23, ascii "Dolby 3.1"⟩, ⟨0x24, ascii "Dolby 4.1"⟩,
  ⟨0x25, ascii "Dolby 5.1"⟩, ⟨0x26, ascii "Dolby 6.1"⟩, ⟨0x27, ascii "Dolby 7.1"⟩, ⟨0x31, ascii "THX 2.0"⟩,
  ⟨0x32, ascii "THX 2.1"⟩, ⟨0x33, ascii "THX 3.1"⟩, ⟨0x34, ascii "THX 4.1"⟩, ⟨0x35, ascii "THX 5.1"⟩,
  ⟨0x36, ascii "THX 6.1"⟩, ⟨0x37, ascii "THX 7.1"⟩]

def x99WindowControlValues : List FeatureValueEntry := [
  ⟨0x00, ascii "No effect"⟩, ⟨0x01, ascii "Off"⟩, ⟨0x02, ascii "On"⟩]

def xa2AutoSetupValues : List FeatureValueEntry := [
  ⟨0x01, ascii "Off"⟩, ⟨0x02, ascii "On"⟩]

def xa5WindowSelectValues : List FeatureValueEntry := [
  ⟨0x00, ascii "Full display image area selected except active windows"⟩, ⟨0x01, ascii "Window 1 selected"⟩,
  ⟨0x02, ascii "Window 2 selected"⟩, ⟨0x03, ascii "Window 3 selected"⟩, ⟨0x04, ascii "Window 4 selected"⟩,
  ⟨0x05, ascii "Window 5 selected"⟩, ⟨0x06, ascii "Window 6 selected"⟩, ⟨0x07, ascii "Window 7 selected"⟩]

def xaaScreenOrientationValues : List FeatureValueEntry := [
  ⟨0x01, ascii "0 degrees"⟩, ⟨0x02, ascii "90 degrees"⟩, ⟨0x03, ascii "180 degrees"⟩, ⟨0x04, ascii "270 degrees"⟩,
  ⟨0xff, ascii "Display cannot supply orientation"⟩]

def xb0SettingsValues : List FeatureValueEntry := [
  ⟨0x01, ascii "Store current settings in the monitor"⟩, ⟨0x02, ascii "Restore factory defaults for current mode"⟩]

def xb2FlatPanelSubpixelLayoutValues : List FeatureValueEntry := [
  ⟨0x00, ascii "Sub-pixel layout not defined"⟩, ⟨0x01, ascii "Red/Green/Blue vertical stripe"⟩,
  ⟨0x02, ascii "Red/Green/Blue horizontal stripe"⟩, ⟨0x03, ascii "Blue/Green/Red vertical stripe"⟩,
  ⟨0x04, ascii "Blue/Green/Red horizontal stripe"⟩, ⟨0x05, ascii "Quad pixel, red at top left"⟩,
  ⟨0x06, ascii "Quad pixel, red at bottom left"⟩, ⟨0x07, ascii "Delta (triad)"⟩, ⟨0x08, ascii "Mosaic"⟩]

def xb6V20DisplayTechnologyTypeValues : List FeatureValueEntry := [
  ⟨0x01, ascii "CRT (shadow mask)"⟩, ⟨0x02, ascii "CRT (aperture grill)"⟩, ⟨0x03, ascii "LCD (active matrix)"⟩,
  ⟨0x04, ascii "LCos"⟩, ⟨0x05, ascii "Plasma"⟩, ⟨0x06, ascii "OLED"⟩, ⟨0x07, ascii "EL"⟩, ⟨0x08, ascii "MEM"⟩]

def xb6DisplayTechnologyTypeValues : List FeatureValueEntry := [
  ⟨0x01, ascii "CRT (shadow mask)"⟩, ⟨0x02, ascii "CRT (aperture grill)"⟩, ⟨0x03, ascii "LCD (active matrix)"⟩,
  ⟨0x04, ascii "LCos"⟩, ⟨0x05, ascii "Plasma"⟩, ⟨0x06, ascii "OLED"⟩, ⟨0x07, ascii "EL"⟩, ⟨0x08, ascii "Dynamic MEM"⟩,
  ⟨0x09, ascii "Static MEM"⟩]

def xc8DisplayControllerTypeValues : List FeatureValueEntry := [
  ⟨0x01, ascii "Conexant"⟩, ⟨0x02, ascii "Genesis"⟩, ⟨0x03, ascii "Macronix"⟩, ⟨0x04, ascii "IDT"⟩,
  ⟨0x05, ascii "Mstar"⟩, ⟨0x06, ascii "Myson"⟩, ⟨0x07, ascii "Phillips"⟩, ⟨0x08, ascii "PixelWorks"⟩,
  ⟨0x09, ascii "RealTek"⟩, ⟨0x0a, ascii "Sage"⟩, ⟨0x0b, ascii "Silicon Image"⟩, ⟨0x0c, ascii "SmartASIC"⟩,
  ⟨0x0d, ascii "STMicroelectronics"⟩, ⟨0x0e, ascii "Topro"⟩, ⟨0x0f, ascii "Trumpion"⟩, ⟨0x10, ascii "Welltrend"⟩,
  ⟨0x11, ascii "Samsung"⟩, ⟨0x12, ascii "Novatek"⟩, ⟨0x13, ascii "STK"⟩, ⟨0x14, ascii "Silicon Optics"⟩,
  ⟨0x15, ascii "Texas Instruments"⟩, ⟨0x16, ascii "Analogix"⟩, ⟨0x17, ascii "Quantum Data"⟩,
  ⟨0x18, ascii "NXP Semiconductors"⟩, ⟨0x19, ascii "Chrontel"⟩, ⟨0x1a, ascii "Parade Technologies"⟩,
  ⟨0x1b, ascii "THine Electronics"⟩, ⟨0x1c, ascii "Trident"⟩, ⟨0x1d, ascii "Micros"⟩,
  ⟨0xff, ascii "Not defined - a manufacturer designed controller"⟩]

def xcaOsdValues : List FeatureValueEntry := [
  ⟨0x01, ascii "OSD Disabled"⟩, ⟨0x02, ascii "OSD Enabled"⟩, ⟨0xff, ascii "Display cannot supply this information"⟩]

def xcaV22OsdButtonSlValues : List FeatureValueEntry := [
  ⟨0x00, ascii "Host OSD control unsupported"⟩, ⟨0x01, ascii "OSD disabled, button events enabled"⟩,
  ⟨0x02, ascii "OSD enabled, button events enabled"⟩, ⟨0x03, ascii "OSD disabled, button events disabled"⟩,
  ⟨0xff, ascii "Display cannot supply this information"⟩]

def xcaV22OsdButtonShValues : List FeatureValueEntry := [
  ⟨0x00, ascii "Host control of power unsupported"⟩,
  ⟨0x01, ascii "Power button disabled, power button events enabled"⟩,
  ⟨0x02, ascii "Power button enabled, power button events enabled"⟩,
  ⟨0x03, ascii "Power button disabled, power button events disabled"⟩]

def xccOsdLanguageValues : List FeatureValueEntry := [
  ⟨0x00, ascii "Reserved value, must be ignored"⟩, ⟨0x01, ascii "Chinese (traditional, Hantai)"⟩,
  ⟨0x02, ascii "English"⟩, ⟨0x03, ascii "French"⟩, ⟨0x04, ascii "German"⟩, ⟨0x05, ascii "Italian"⟩,
  ⟨0x06, ascii "Japanese"⟩, ⟨0x07, ascii "Korean"⟩, ⟨0x08, ascii "Portuguese (Portugal)"⟩, ⟨0x09, ascii "Russian"⟩,
  ⟨0x0a, ascii "Spanish"⟩, ⟨0x0b, ascii "Swedish"⟩, ⟨0x0c, ascii "Turkish"⟩,
  ⟨0x0d, ascii "Chinese (simplified / Kantai)"⟩, ⟨0x0e, ascii "Portuguese (Brazil)"⟩, ⟨0x0f, ascii "Arabic"⟩,
  ⟨0x10, ascii "Bulgarian "⟩, ⟨0x11, ascii "Croatian"⟩, ⟨0x12, ascii "Czech"⟩, ⟨0x13, ascii "Danish"⟩,
  ⟨0x14, ascii "Dutch"⟩, ⟨0x15, ascii "Estonian"⟩, ⟨0x16, ascii "Finnish"⟩, ⟨0x17, ascii "Greek"⟩,
  ⟨0x18, ascii "Hebrew"⟩, ⟨0x19, ascii "Hindi"⟩, ⟨0x1a, ascii "Hungarian"⟩, ⟨0x1b, ascii "Latvian"⟩,
  ⟨0x1c, ascii "Lithuanian"⟩, ⟨0x1d, ascii "Norwegian "⟩, ⟨0x1e, ascii "Polish"⟩, ⟨0x1f, ascii "Romanian "⟩,
  ⟨0x20, ascii "Serbian"⟩, ⟨0x21, ascii "Slovak"⟩, ⟨0x22, ascii "Slovenian"⟩, ⟨0x23, ascii "Thai"⟩,
  ⟨0x24, ascii "Ukranian"⟩, ⟨0x25, ascii "Vietnamese"⟩]

def xd0V2OutputSelectValues : List FeatureValueEntry := [
  ⟨0x01, ascii "Analog video (R/G/B) 1"⟩, ⟨0x02, ascii "Analog video (R/G/B) 2"⟩,
  ⟨0x03, ascii "Digital video (TDMS) 1"⟩, ⟨0x04, ascii "Digital video (TDMS) 22"⟩, ⟨0x05, ascii "Composite video 1"⟩,
  ⟨0x06, ascii "Composite video 2"⟩, ⟨0x07, ascii "S-Video-1"⟩, ⟨0x08, ascii "S-Video-2"⟩, ⟨0x09, ascii "Tuner-1"⟩,
  ⟨0x0a, ascii "Tuner-2"⟩, ⟨0x0b, ascii "Tuner-3"⟩, ⟨0x0c, ascii "Component video (YPrPb/YCrCb) 1"⟩,
  ⟨0x0d, ascii "Component video (YPrPb/YCrCb) 2"⟩, ⟨0x0e, ascii "Component video (YPrPb/YCrCb) 3"⟩,
  ⟨0x0f, ascii "DisplayPort-1"⟩, ⟨0x10, ascii "DisplayPort-2"⟩, ⟨0x11, ascii "HDMI-1"⟩, ⟨0x12, ascii "HDMI-2"⟩]

def xd6PowerModeValues : List FeatureValueEntry := [
  ⟨0x01, ascii "DPM: On,  DPMS: Off"⟩, ⟨0x02, ascii "DPM: Off, DPMS: Standby"⟩,
  ⟨0x03, ascii "DPM: Off, DPMS: Suspend"⟩, ⟨0x04, ascii "DPM: Off, DPMS: Off"⟩,
  ⟨0x05, ascii "Write only value to turn off display"⟩]

def xd7AuxPowerOutputValues : List FeatureValueEntry := [
  ⟨0x01, ascii "Disable auxiliary power"⟩, ⟨0x02, ascii "Enable Auxiliary power"⟩]

def xdaScanModeValues : List FeatureValueEntry := [
  ⟨0x00, ascii "Normal operation"⟩, ⟨0x01, ascii "Underscan"⟩, ⟨0x02, ascii "Overscan"⟩, ⟨0x03, ascii "Widescreen"⟩]

def xdbImageModeValues : List FeatureValueEntry := [
  ⟨0x00, ascii "No effect"⟩, ⟨0x01, ascii "Full mode"⟩, ⟨0x02, ascii "Zoom mode"⟩, ⟨0x03, ascii "Squeeze mode"⟩,
  ⟨0x04, ascii "Variable"⟩]

def xdcDisplayApplicationValues : List FeatureValueEntry := [
  ⟨0x00, ascii "Standard/Default mode"⟩, ⟨0x01, ascii "Productivity"⟩, ⟨0x02, ascii "Mixed"⟩, ⟨0x03, ascii "Movie"⟩,
  ⟨0x04, ascii "User defined"⟩, ⟨0x05, ascii "Games"⟩, ⟨0x06, ascii "Sports"⟩,
  ⟨0x07, ascii "Professional (all signal processing disabled)"⟩,
  ⟨0x08, ascii "Standard/Default mode with intermediate power consumption"⟩,
  ⟨0x09, ascii "Standard/Default mode with low power consumption"⟩, ⟨0x0a, ascii "Demonstration"⟩,
  ⟨0xf0, ascii "Dynamic contrast"⟩]

/-! ## The table -/

def vcpCodeTable : List VcpFeatureTableEntry := [
  { code := 0x01, desc := ascii "Causes a CRT to perform a degauss cycle", vcpSpecGroups := vcpSpecMisc,
    vcpSubsets := vcpSubsetCrt, v20Name := ascii "Degauss", v20Flags := ddcaWo ||| ddcaWoNc },
  { code := 0x02,
    desc := ascii "Indicates that a display user control (other than power) has been used to change and " ++
      ascii "save (or autosave) a new value.", nontableFormatter := some .x02NewControlValue,
    vcpSpecGroups := vcpSpecMisc, v20Name := ascii "New control value", v20Flags := ddcaRw ||| ddcaComplexNc,
    defaultSlValues := x02NewControlValues },
  { code := 0x03, desc := ascii "Allows display controls to be used as soft keys", vcpSpecGroups := vcpSpecMisc,
    v20Name := ascii "Soft controls", v20Flags := ddcaRw ||| ddcaSimpleNc, defaultSlValues := x03SoftControlsValues },
  { code := 0x04,
    desc := ascii "Restore all factory presets including brightness/contrast, geometry, color, and TV " ++
      ascii "defaults.", vcpSpecGroups := vcpSpecPreset, vcpSubsets := vcpSubsetColor,
    v20Name := ascii "Restore factory defaults", v20Flags := ddcaWo ||| ddcaWoNc },
  { code := 0x05, desc := ascii "Restore factory defaults for brightness and contrast",
    vcpSpecGroups := vcpSpecPreset, vcpSubsets := vcpSubsetColor,
    v20Name := ascii "Restore factory brightness/contrast defaults", v20Flags := ddcaWo ||| ddcaWoNc },
  { code := 0x06, desc := ascii "Restore factory defaults for geometry adjustments", vcpSpecGroups := vcpSpecPreset,
    v20Name := ascii "Restore factory geometry defaults", v20Flags := ddcaWo ||| ddcaWoNc },
  { code := 0x08, desc := ascii "Restore factory defaults for color settings.", vcpSpecGroups := vcpSpecPreset,
    vcpSubsets := vcpSubsetColor, v20Name := ascii "Restore color defaults", v20Flags := ddcaWo ||| ddcaWoNc },
  { code := 0x0a, desc := ascii "Restore factory defaults for TV functions.", vcpSpecGroups := vcpSpecPreset,
    vcpSubsets := vcpSubsetTv, v20Name := ascii "Restore factory TV defaults", v20Flags := ddcaWo ||| ddcaWoNc },
  { code := 0x0b, desc := ascii "Color temperature increment used by feature 0Ch Color Temperature Request",
    nontableFormatter := some .x0bColorTemperatureIncrement, vcpSpecGroups := vcpSpecImage,
    vcpSubsets := vcpSubsetColor, v20Name := ascii "Color temperature increment",
    v20Flags := ddcaRo ||| ddcaComplexNc },
  { code := 0x0c, desc := ascii "Specifies a color temperature (degrees Kelvin)",
    nontableFormatter := some .x0cColorTemperatureRequest, vcpSpecGroups := vcpSpecImage,
    vcpSubsets := vcpSubsetColor, v20Name := ascii "Color temperature request",
    v20Flags := ddcaRw ||| ddcaComplexCont },
  { code := 0x0e, desc := ascii "Increase/decrease the sampling clock frequency.", vcpSpecGroups := vcpSpecImage,
    v20Name := ascii "Clock", v20Flags := ddcaRw ||| ddcaStdCont },
  { code := 0x10, desc := ascii "Increase/decrease the brightness of the image.", vcpSpecGroups := vcpSpecImage,
    vcpSubsets := vcpSubsetColor ||| vcpSubsetProfile, v20Name := ascii "Brightness", v30Name := ascii "Luminosity",
    v20Flags := ddcaRw ||| ddcaStdCont },
  { code := 0x11, desc := ascii "Select contrast enhancement algorithm respecting flesh tone region",
    nontableFormatter := some .debugBytes, vcpSpecGroups := vcpSpecImage, vcpSubsets := vcpSubsetColor,
    v21Name := ascii "Flesh tone enhancement", v21Flags := ddcaRw ||| ddcaComplexNc },
  { code := 0x12, desc := ascii "Increase/decrease the contrast of the image.", vcpSpecGroups := vcpSpecImage,
    vcpSubsets := vcpSubsetColor ||| vcpSubsetProfile, v20Name := ascii "Contrast",
    v20Flags := ddcaRw ||| ddcaStdCont },
  { code := 0x13, desc := ascii "Increase/decrease the specified backlight control value",
    nontableFormatter := some .debugBytes, vcpSpecGroups := vcpSpecImage,
    vcpSubsets := vcpSubsetColor ||| vcpSubsetProfile, v21Name := ascii "Backlight control",
    v21Flags := ddcaRw ||| ddcaComplexCont, v22Flags := ddcaDeprecated ||| ddcaRw ||| ddcaComplexCont },
  { code := 0x14, desc := ascii "Select a specified color temperature",
    nontableFormatter := some .x14SelectColorPreset, vcpSpecGroups := vcpSpecImage,
    vcpSubsets := vcpSubsetColor ||| vcpSubsetProfile, v20Name := ascii "Select color preset",
    v20Flags := ddcaRw ||| ddcaSimpleNc, v30Flags := ddcaRw ||| ddcaComplexNc, v22Flags := ddcaRw ||| ddcaComplexNc,
    defaultSlValues := x14ColorPresetAbsoluteValues },
  { code := 0x16, desc := ascii "Increase/decrease the luminesence of red pixels", vcpSpecGroups := vcpSpecImage,
    vcpSubsets := vcpSubsetColor ||| vcpSubsetProfile, v20Name := ascii "Video gain: Red",
    v20Flags := ddcaRw ||| ddcaStdCont },
  { code := 0x17, desc := ascii "Increase/decrease the degree of compensation", vcpSpecGroups := vcpSpecImage,
    vcpSubsets := vcpSubsetColor, v21Name := ascii "User color vision compensation",
    v21Flags := ddcaRw ||| ddcaStdCont },
  { code := 0x18, desc := ascii "Increase/decrease the luminesence of green pixels", vcpSpecGroups := vcpSpecImage,
    vcpSubsets := vcpSubsetColor ||| vcpSubsetProfile, v20Name := ascii "Video gain: Green",
    v20Flags := ddcaRw ||| ddcaStdCont },
  { code := 0x1a, desc := ascii "Increase/decrease the luminesence of blue pixels", vcpSpecGroups := vcpSpecImage,
    vcpSubsets := vcpSubsetColor ||| vcpSubsetProfile, v20Name := ascii "Video gain: Blue",
    v20Flags := ddcaRw ||| ddcaStdCont },
  { code := 0x1c, desc := ascii "Increase/decrease the focus of the image", vcpSpecGroups := vcpSpecImage,
    v20Name := ascii "Focus", v20Flags := ddcaRw ||| ddcaStdCont },
  { code := 0x1e, desc := ascii "Perform autosetup function (H/V position, clock, clock phase, A/D converter, etc.",
    vcpSpecGroups := vcpSpecImage, v20Name := ascii "Auto setup", v20Flags := ddcaRw ||| ddcaSimpleNc,
    defaultSlValues := x1eX1fAutoSetupValues },
  { code := 0x1f, desc := ascii "Perform color autosetup function (R/G/B gain and offset, A/D setup, etc. ",
    vcpSpecGroups := vcpSpecImage, vcpSubsets := vcpSubsetColor, v21Name := ascii "Auto color setup",
    v21Flags := ddcaRw ||| ddcaSimpleNc, defaultSlValues := x1eX1fAutoSetupValues },
  { code := 0x20,
    desc := ascii "Increasing (decreasing) this value moves the image toward the right (left) of the " ++
      ascii "display.", vcpSpecGroups := vcpSpecGeometry, vcpSubsets := vcpSubsetCrt,
    v20Name := ascii "Horizontal Position", v21Name := ascii "Horizontal Position (Phase)",
    v20Flags := ddcaRw ||| ddcaStdCont },
  { code := 0x22, desc := ascii "Increase/decrease the width of the image.", vcpSpecGroups := vcpSpecGeometry,
    vcpSubsets := vcpSubsetCrt, v20Name := ascii "Horizontal Size", v20Flags := ddcaRw ||| ddcaStdCont },
  { code := 0x24,
    desc := ascii "Increasing (decreasing) this value causes the right and left sides of the image to " ++
      ascii "become more (less) convex.", vcpSpecGroups := vcpSpecGeometry, vcpSubsets := vcpSubsetCrt,
    v20Name := ascii "Horizontal Pincushion", v20Flags := ddcaRw ||| ddcaStdCont },
  { code := 0x26,
    desc := ascii "Increasing (decreasing) this value moves the center section of the image toward the " ++
      ascii "right (left) side of the display.", vcpSpecGroups := vcpSpecGeometry, vcpSubsets := vcpSubsetCrt,
    v20Name := ascii "Horizontal Pincushion Balance", v20Flags := ddcaRw ||| ddcaStdCont },
  { code := 0x28,
    desc := ascii "Increasing (decreasing) this value shifts the red pixels to the right (left) and the " ++
      ascii "blue pixels left (right) across the image with respect to the green pixels.",
    vcpSpecGroups := vcpSpecGeometry, vcpSubsets := vcpSubsetCrt, v20Name := ascii "Horizontal Convergence",
    v21Name := ascii "Horizontal Convergence R/B", v20Flags := ddcaRw ||| ddcaStdCont },
  { code := 0x29,
    desc := ascii "Increasing (decreasing) this value shifts the magenta pixels to the right (left) and " ++
      ascii "the green pixels left (right) across the image with respect to the magenta (sic) pixels.",
    vcpSpecGroups := vcpSpecGeometry, vcpSubsets := vcpSubsetCrt, v21Name := ascii "Horizontal Convergence M/G",
    v21Flags := ddcaRw ||| ddcaStdCont },
  { code := 0x2a, desc := ascii "Increase/decrease the density of pixels in the image center.",
    vcpSpecGroups := vcpSpecGeometry, vcpSubsets := vcpSubsetCrt, v20Name := ascii "Horizontal Linearity",
    v20Flags := ddcaRw ||| ddcaStdCont },
  { code := 0x2c,
    desc := ascii "Increasing (decreasing) this value shifts the density of pixels from the left (right) " ++
      ascii "side to the right (left) side of the image.", vcpSpecGroups := vcpSpecGeometry,
    vcpSubsets := vcpSubsetCrt, v20Name := ascii "Horizontal Linearity Balance", v20Flags := ddcaRw ||| ddcaStdCont },
  { code := 0x2e, desc := ascii "Gray Scale Expansion", nontableFormatter := some .debugBytes,
    vcpSpecGroups := vcpSpecImage, vcpSubsets := vcpSubsetColor, v21Name := ascii "Gray scale expansion",
    v21Flags := ddcaRw ||| ddcaComplexNc },
  { code := 0x30,
    desc := ascii "Increasing (decreasing) this value moves the image toward the top (bottom) edge of the " ++
      ascii "display.", vcpSpecGroups := vcpSpecGeometry, vcpSubsets := vcpSubsetCrt,
    v20Name := ascii "Vertical Position", v21Name := ascii "Vertical Position (Phase)",
    v20Flags := ddcaRw ||| ddcaStdCont },
  { code := 0x32, desc := ascii "Increase/decreasing the height of the image.", vcpSpecGroups := vcpSpecGeometry,
    vcpSubsets := vcpSubsetCrt, v20Name := ascii "Vertical Size", v20Flags := ddcaRw ||| ddcaStdCont },
  { code := 0x34,
    desc := ascii "Increasing (decreasing) this value will cause the top and bottom edges of the image to " ++
      ascii "become more (less) convex.", vcpSpecGroups := vcpSpecGeometry, vcpSubsets := vcpSubsetCrt,
    v20Name := ascii "Vertical Pincushion", v20Flags := ddcaRw ||| ddcaStdCont },
  { code := 0x36,
    desc := ascii "Increasing (decreasing) this value will move the center section of the image toward the " ++
      ascii "top (bottom) edge of the display.", vcpSpecGroups := vcpSpecGeometry, vcpSubsets := vcpSubsetCrt,
    v20Name := ascii "Vertical Pincushion Balance", v20Flags := ddcaRw ||| ddcaStdCont },
  { code := 0x38,
    desc := ascii "Increasing (decreasing) this value shifts the red pixels up (down) across the image and " ++
      ascii "the blue pixels down (up) across the image with respect to the green pixels.",
    vcpSpecGroups := vcpSpecGeometry, vcpSubsets := vcpSubsetCrt, v20Name := ascii "Vertical Convergence",
    v21Name := ascii "Vertical Convergence R/B", v20Flags := ddcaRw ||| ddcaStdCont },
  { code := 0x39,
    desc := some (ascii "Increasing (decreasing) this value shifts the magenta pixels up (down) across the image " ++
      ascii "and the green pixels down (up) across the image with respect to the magenta (sic) " ++
      ascii "pixels."), vcpSpecGroups := vcpSpecGeometry, vcpSubsets := vcpSubsetCrt,
    v21Name := ascii "Vertical Convergence M/G", v21Flags := ddcaRw ||| ddcaStdCont },
  { code := 0x3a, desc := ascii "Increase/decease the density of scan lines in the image center.",
    vcpSpecGroups := vcpSpecGeometry, vcpSubsets := vcpSubsetCrt, v20Name := ascii "Vertical Linearity",
    v20Flags := ddcaRw ||| ddcaStdCont },
  { code := 0x3c, desc := ascii "Increase/decrease the density of scan lines in the image center.",
    vcpSpecGroups := vcpSpecGeometry, vcpSubsets := vcpSubsetCrt, v20Name := ascii "Vertical Linearity Balance",
    v20Flags := ddcaRw ||| ddcaStdCont },
  { code := 0x3e, desc := ascii "Increase/decrease the sampling clock phase shift",
    vcpSpecGroups := vcpSpecImage ||| vcpSpecMisc, v20Name := ascii "Clock phase",
    v20Flags := ddcaRw ||| ddcaStdCont },
  { code := 0x40,
    desc := ascii "Increasing (decreasing) this value shifts the top section of the image to the right " ++
      ascii "(left) with respect to the bottom section of the image.", vcpSpecGroups := vcpSpecGeometry,
    vcpSubsets := vcpSubsetCrt, v20Name := ascii "Key Balance", v21Name := ascii "Horizontal Parallelogram",
    v20Flags := ddcaRw ||| ddcaStdCont },
  { code := 0x41,
    desc := ascii "Increasing (decreasing) this value shifts the top section of the image to the right " ++
      ascii "(left) with respect to the bottom section of the image. (sic)", vcpSpecGroups := vcpSpecGeometry,
    vcpSubsets := vcpSubsetCrt, v21Name := ascii "Vertical Parallelogram", v21Flags := ddcaRw ||| ddcaStdCont },
  { code := 0x42,
    desc := some (ascii "Increasing (decreasing) this value will increase (decrease) the ratio between the " ++
      ascii "horizontal size at the top of the image and the horizontal size at the bottom of the " ++
      ascii "image."), vcpSpecGroups := vcpSpecGeometry, vcpSubsets := vcpSubsetCrt,
    v20Name := ascii "Horizontal Trapezoid", v21Name := ascii "Horizontal Keystone",
    v20Flags := ddcaRw ||| ddcaStdCont },
  { code := 0x43,
    desc := ascii "Increasing (decreasing) this value will increase (decrease) the ratio between the " ++
      ascii "vertical size at the left of the image and the vertical size at the right of the image.",
    vcpSpecGroups := vcpSpecGeometry, vcpSubsets := vcpSubsetCrt, v20Name := ascii "Vertical Trapezoid",
    v21Name := ascii "Vertical Keystone", v20Flags := ddcaRw ||| ddcaStdCont },
  { code := 0x44,
    desc := ascii "Increasing (decreasing) this value rotates the image (counter) clockwise around the " ++
      ascii "center point of the screen.", vcpSpecGroups := vcpSpecGeometry, vcpSubsets := vcpSubsetCrt,
    v20Name := ascii "Tilt (rotation)", v21Name := ascii "Rotation", v20Flags := ddcaRw ||| ddcaStdCont },
  { code := 0x46,
    desc := ascii "Increase/decrease the distance between the left and right sides at the top of the image.",
    vcpSpecGroups := vcpSpecGeometry, vcpSubsets := vcpSubsetCrt, v20Name := ascii "Top Corner",
    v21Name := ascii "Top Corner Flare", v20Flags := ddcaRw ||| ddcaStdCont },
  { code := 0x48, desc := ascii "Increasing (decreasing) this value moves the top of the image to the right (left).",
    vcpSpecGroups := vcpSpecGeometry, vcpSubsets := vcpSubsetCrt, v20Name := ascii "Top Corner Balance",
    v21Name := ascii "Top Corner Hook", v20Flags := ddcaRw ||| ddcaStdCont },
  { code := 0x4a,
    desc := ascii "Increase/decrease the distance between the left and right sides at the bottom of the " ++
      ascii "image.", vcpSpecGroups := vcpSpecGeometry, vcpSubsets := vcpSubsetCrt, v20Name := ascii "Bottom Corner",
    v21Name := ascii "Bottom Corner Flare", v20Flags := ddcaRw ||| ddcaStdCont },
  { code := 0x4c,
    desc := ascii "Increasing (decreasing) this value moves the bottom end of the image to the right (left).",
    vcpSpecGroups := vcpSpecGeometry, vcpSubsets := vcpSubsetCrt, v20Name := ascii "Bottom Corner Balance",
    v21Name := ascii "Bottom Corner Hook", v20Flags := ddcaRw ||| ddcaStdCont },
  { code := 0x52, desc := ascii "Read id of one feature that has changed, 0x00 indicates no more",
    nontableFormatter := some .slByte, vcpSpecGroups := vcpSpecMisc, v20Name := ascii "Active control",
    v20Flags := ddcaRo ||| ddcaComplexNc },
  { code := 0x54, desc := ascii "Controls features aimed at preserving display performance",
    nontableFormatter := some .debugBytes, vcpSpecGroups := vcpSpecMisc, v21Name := ascii "Performance Preservation",
    v21Flags := ddcaRw ||| ddcaComplexNc },
  { code := 0x56, desc := ascii "Increase/decrease horizontal moire cancellation.", vcpSpecGroups := vcpSpecImage,
    v20Name := ascii "Horizontal Moire", v20Flags := ddcaRw ||| ddcaStdCont },
  { code := 0x58, desc := ascii "Increase/decrease vertical moire cancellation.", vcpSpecGroups := vcpSpecImage,
    v20Name := ascii "Vertical Moire", v20Flags := ddcaRw ||| ddcaStdCont },
  { code := 0x59, desc := ascii "Increase/decrease red saturation", vcpSpecGroups := vcpSpecImage,
    vcpSubsets := vcpSubsetColor, v21Name := ascii "6 axis saturation: Red", v21Flags := ddcaRw ||| ddcaStdCont },
  { code := 0x5a, desc := ascii "Increase/decrease yellow saturation", vcpSpecGroups := vcpSpecImage,
    vcpSubsets := vcpSubsetColor, v21Name := ascii "6 axis saturation: Yellow", v21Flags := ddcaRw ||| ddcaStdCont },
  { code := 0x5b, desc := ascii "Increase/decrease green saturation", vcpSpecGroups := vcpSpecImage,
    vcpSubsets := vcpSubsetColor, v21Name := ascii "6 axis saturation: Green", v21Flags := ddcaRw ||| ddcaStdCont },
  { code := 0x5c, desc := ascii "Increase/decrease cyan saturation", vcpSpecGroups := vcpSpecImage,
    vcpSubsets := vcpSubsetColor, v21Name := ascii "6 axis saturation: Cyan", v21Flags := ddcaRw ||| ddcaStdCont },
  { code := 0x5d, desc := ascii "Increase/decrease blue saturation", vcpSpecGroups := vcpSpecImage,
    vcpSubsets := vcpSubsetColor, v21Name := ascii "6 axis saturation: Blue", v21Flags := ddcaRw ||| ddcaStdCont },
  { code := 0x5e, desc := ascii "Increase/decrease magenta saturation", vcpSpecGroups := vcpSpecImage,
    vcpSubsets := vcpSubsetColor, v21Name := ascii "6 axis saturation: Magenta", v21Flags := ddcaRw ||| ddcaStdCont },
  { code := 0x60, desc := ascii "Selects active video source", vcpSpecGroups := vcpSpecMisc,
    v20Name := ascii "Input Source", v20Flags := ddcaRw ||| ddcaSimpleNc, v30Flags := ddcaRw ||| ddcaNormalTable,
    v22Flags := ddcaRw ||| ddcaSimpleNc, defaultSlValues := x60V2InputSourceValues },
  { code := 0x62, desc := ascii "Adjusts speaker volume", nontableFormatter := some .x62AudioSpeakerVolume,
    vcpSpecGroups := vcpSpecAudio, vcpSubsets := vcpSubsetAudio, v20Name := ascii "Audio speaker volume",
    v20Flags := ddcaRw ||| ddcaStdCont, v30Flags := ddcaRw ||| ddcaNcCont, v22Flags := ddcaRw ||| ddcaNcCont },
  { code := 0x63, desc := ascii "Selects a group of speakers", vcpSpecGroups := vcpSpecAudio,
    vcpSubsets := vcpSubsetAudio, v21Name := ascii "Speaker Select", v21Flags := ddcaRw ||| ddcaSimpleNc,
    defaultSlValues := x63SpeakerSelectValues },
  { code := 0x64, desc := ascii "Increase/decrease microphone gain", vcpSpecGroups := vcpSpecAudio,
    vcpSubsets := vcpSubsetAudio, v20Name := ascii "Audio: Microphone Volume", v20Flags := ddcaRw ||| ddcaStdCont },
  { code := 0x66, desc := ascii "Enable/Disable ambient light sensor", nontableFormatter := some .debugBytes,
    vcpSpecGroups := vcpSpecMisc, v21Name := ascii "Ambient light sensor", v21Flags := ddcaRw ||| ddcaSimpleNc,
    defaultSlValues := x66AmbientLightSensorValues },
  { code := 0x6b, desc := ascii "Increase/decrease the white backlight level", vcpSpecGroups := vcpSpecImage,
    vcpSubsets := vcpSubsetColor ||| vcpSubsetProfile, v22Name := ascii "Backlight Level: White",
    v22Flags := ddcaRw ||| ddcaStdCont },
  { code := 0x6c, desc := ascii "Increase/decrease the black level of red pixels", vcpSpecGroups := vcpSpecImage,
    vcpSubsets := vcpSubsetColor ||| vcpSubsetProfile, v20Name := ascii "Video black level: Red",
    v20Flags := ddcaRw ||| ddcaStdCont },
  { code := 0x6d, desc := ascii "Increase/decrease the red backlight level", vcpSpecGroups := vcpSpecImage,
    vcpSubsets := vcpSubsetColor ||| vcpSubsetProfile, v22Name := ascii "Backlight Level: Red",
    v22Flags := ddcaRw ||| ddcaStdCont },
  { code := 0x6e, desc := ascii "Increase/decrease the black level of green pixels", vcpSpecGroups := vcpSpecImage,
    vcpSubsets := vcpSubsetColor ||| vcpSubsetProfile, v20Name := ascii "Video black level: Green",
    v20Flags := ddcaRw ||| ddcaStdCont },
  { code := 0x6f, desc := ascii "Increase/decrease the green backlight level", vcpSpecGroups := vcpSpecImage,
    vcpSubsets := vcpSubsetColor ||| vcpSubsetProfile, v22Name := ascii "Backlight Level: Green",
    v22Flags := ddcaRw ||| ddcaStdCont },
  { code := 0x70, desc := ascii "Increase/decrease the black level of blue pixels", vcpSpecGroups := vcpSpecImage,
    vcpSubsets := vcpSubsetColor ||| vcpSubsetProfile, v20Name := ascii "Video black level: Blue",
    v20Flags := ddcaRw ||| ddcaStdCont },
  { code := 0x71, desc := ascii "Increase/decrease the blue backlight level", vcpSpecGroups := vcpSpecImage,
    vcpSubsets := vcpSubsetColor ||| vcpSubsetProfile, v22Name := ascii "Backlight Level: Blue",
    v22Flags := ddcaRw ||| ddcaStdCont },
  { code := 0x72, desc := ascii "Select relative or absolute gamma", nontableFormatter := some .x72Gamma,
    vcpSpecGroups := vcpSpecImage, vcpSubsets := vcpSubsetColor, v21Name := ascii "Gamma",
    v21Flags := ddcaRw ||| ddcaComplexNc },
  { code := 0x73,
    desc := ascii "Provides the size (number of entries and number of bits/entry) for the Red, Green, and " ++
      ascii "Blue LUT in the display.", tableFormatter := some .x73LutSize,
    vcpSpecGroups := vcpSpecMisc ||| vcpSpecImage, vcpSubsets := vcpSubsetLut, v20Name := ascii "LUT Size",
    v20Flags := ddcaRo ||| ddcaNormalTable },
  { code := 0x74, desc := ascii "Writes a single point within the display's LUT, reads a single point from the LUT",
    tableFormatter := some .default, vcpSpecGroups := vcpSpecMisc ||| vcpSpecImage, vcpSubsets := vcpSubsetLut,
    v20Name := ascii "Single point LUT operation", v20Flags := ddcaRw ||| ddcaNormalTable },
  { code := 0x75, desc := ascii "Load (read) multiple values into (from) the display's LUT",
    tableFormatter := some .default, vcpSpecGroups := vcpSpecMisc ||| vcpSpecImage, vcpSubsets := vcpSubsetLut,
    v20Name := ascii "Block LUT operation", v20Flags := ddcaRw ||| ddcaNormalTable },
  { code := 0x76, desc := ascii "Initiates a routine resident in the display", vcpSpecGroups := vcpSpecMisc,
    vcpSubsets := vcpSubsetLut, v20Name := ascii "Remote Procedure Call", v20Flags := ddcaWo ||| ddcaWoTable },
  { code := 0x78,
    desc := ascii "Causes a selected 128 byte block of Display Identification Data (EDID or Display ID) to " ++
      ascii "be read", vcpSpecGroups := vcpSpecMisc, v21Name := ascii "EDID operation",
    v30Name := ascii "EDID operation", v22Name := ascii "Display Identification Operation",
    v21Flags := ddcaRo ||| ddcaNormalTable, v30Flags := ddcaRo ||| ddcaNormalTable,
    v22Flags := ddcaRo ||| ddcaNormalTable },
  { code := 0x7a, desc := ascii "Increase/decrease the distance to the focal plane of the image",
    vcpSpecGroups := vcpSpecImage, v20Name := ascii "Adjust Focal Plane", v20Flags := ddcaRw ||| ddcaStdCont,
    v30Flags := ddcaDeprecated ||| ddcaRw ||| ddcaStdCont, v22Flags := ddcaDeprecated ||| ddcaRw ||| ddcaStdCont },
  { code := 0x7c, desc := ascii "Increase/decrease the distance to the zoom function of the projection lens (optics)",
    vcpSpecGroups := vcpSpecImage, v20Name := ascii "Adjust Zoom", v20Flags := ddcaRw ||| ddcaStdCont },
  { code := 0x7e, desc := ascii "Increase/decrease the trapezoid distortion in the image",
    vcpSpecGroups := vcpSpecGeometry, vcpSubsets := vcpSubsetCrt, v20Name := ascii "Trapezoid",
    v20Flags := ddcaRw ||| ddcaStdCont, v30Flags := ddcaDeprecated ||| ddcaRw ||| ddcaStdCont,
    v22Flags := ddcaDeprecated ||| ddcaRw ||| ddcaStdCont },
  { code := 0x80, desc := ascii "Increase/decrease the keystone distortion in the image.",
    vcpSpecGroups := vcpSpecGeometry, vcpSubsets := vcpSubsetCrt, v20Name := ascii "Keystone",
    v20Flags := ddcaRw ||| ddcaStdCont, v21Flags := ddcaDeprecated ||| ddcaRw ||| ddcaStdCont },
  { code := 0x82, desc := ascii "Flip picture horizontally", vcpSpecGroups := vcpSpecImage ||| vcpSpecGeometry,
    v20Name := ascii "HorFlip", v21Name := ascii "Horizontal Mirror (Flip)", v20Flags := ddcaWo ||| ddcaWoNc,
    v21Flags := ddcaRw ||| ddcaSimpleNc, defaultSlValues := x82HorizontalFlipValues,
    v21SlValues := x82HorizontalFlipValues },
  { code := 0x84, desc := ascii "Flip picture vertically", vcpSpecGroups := vcpSpecImage ||| vcpSpecGeometry,
    v20Name := ascii "VertFlip", v21Name := ascii "Vertical Mirror (Flip)", v20Flags := ddcaWo ||| ddcaWoNc,
    v21Flags := ddcaRw ||| ddcaSimpleNc, defaultSlValues := x84VerticalFlipValues,
    v21SlValues := x84VerticalFlipValues },
  { code := 0x86, desc := ascii "Control the scaling (input vs output) of the display", vcpSpecGroups := vcpSpecImage,
    v20Name := ascii "Display Scaling", v20Flags := ddcaRw ||| ddcaSimpleNc,
    defaultSlValues := x86DisplayScalingValues },
  { code := 0x87,
    desc := ascii "Selects one of a range of algorithms. Increasing (decreasing) the value must increase " ++
      ascii "(decrease) the edge sharpness of image features.", vcpSpecGroups := vcpSpecImage,
    v20Name := ascii "Sharpness", v20Flags := ddcaRw ||| ddcaSimpleNc, v21Flags := ddcaRw ||| ddcaStdCont,
    defaultSlValues := x87SharpnessValues },
  { code := 0x88,
    desc := ascii "Increase (decrease) the velocity modulation of the horizontal scan as a function of the " ++
      ascii "change in luminescence level", vcpSpecGroups := vcpSpecMisc ||| vcpSpecImage, vcpSubsets := vcpSubsetCrt,
    v20Name := ascii "Velocity Scan Modulation", v20Flags := ddcaRw ||| ddcaStdCont },
  { code := 0x8a,
    desc := ascii "Increase/decrease the amplitude of the color difference components of the video signal",
    vcpSpecGroups := vcpSpecImage, vcpSubsets := vcpSubsetTv ||| vcpSubsetColor,
    v20Name := ascii "TV Color Saturation", v21Name := ascii "Color Saturation", v20Flags := ddcaRw ||| ddcaStdCont },
  { code := 0x8b, desc := ascii "Increment (1) or decrement (2) television channel", vcpSpecGroups := vcpSpecMisc,
    vcpSubsets := vcpSubsetTv, v20Name := ascii "TV Channel Up/Down", v20Flags := ddcaWo ||| ddcaWoNc,
    defaultSlValues := x8bTvChannelValues },
  { code := 0x8c,
    desc := ascii "Increase/decrease the amplitude of the high frequency components of the video signal",
    vcpSpecGroups := vcpSpecMisc ||| vcpSpecImage, vcpSubsets := vcpSubsetTv, v20Name := ascii "TV Sharpness",
    v20Flags := ddcaRw ||| ddcaStdCont },
  { code := 0x8d, desc := ascii "Mute/unmute audio, and (v2.2) screen blank",
    nontableFormatter := some .x8dMuteAudioBlankScreen, vcpSpecGroups := vcpSpecMisc,
    vcpSubsets := vcpSubsetTv ||| vcpSubsetAudio, v20Name := ascii "Audio Mute",
    v22Name := ascii "Audio mute/Screen blank", v20Flags := ddcaRw ||| ddcaSimpleNc,
    v22Flags := ddcaRw ||| ddcaComplexNc, defaultSlValues := x8dTvAudioMuteSourceValues },
  { code := 0x8e, desc := ascii "Increase/decrease the ratio between blacks and whites in the image",
    vcpSpecGroups := vcpSpecMisc, vcpSubsets := vcpSubsetTv, v20Name := ascii "TV Contrast",
    v20Flags := ddcaRw ||| ddcaStdCont },
  { code := 0x8f, desc := ascii "Emphasize/de-emphasize high frequency audio",
    nontableFormatter := some .x8fX91AudioTrebleBass, vcpSpecGroups := vcpSpecAudio, vcpSubsets := vcpSubsetAudio,
    v20Name := ascii "Audio Treble", v20Flags := ddcaRw ||| ddcaStdCont, v30Flags := ddcaRw ||| ddcaNcCont,
    v22Flags := ddcaRw ||| ddcaNcCont },
  { code := 0x90,
    desc := ascii "Increase/decrease the wavelength of the color component of the video signal. AKA tint.  " ++
      ascii "Applies to currently active interface", vcpSpecGroups := vcpSpecMisc,
    vcpSubsets := vcpSubsetTv ||| vcpSubsetColor, v20Name := ascii "Hue", v20Flags := ddcaRw ||| ddcaStdCont },
  { code := 0x91, desc := ascii "Emphasize/de-emphasize low frequency audio",
    nontableFormatter := some .x8fX91AudioTrebleBass, vcpSpecGroups := vcpSpecAudio, vcpSubsets := vcpSubsetAudio,
    v20Name := ascii "Audio Bass", v20Flags := ddcaRw ||| ddcaStdCont, v30Flags := ddcaRw ||| ddcaNcCont,
    v22Flags := ddcaRw ||| ddcaNcCont },
  { code := 0x92, desc := ascii "Increase/decrease the black level of the video", vcpSpecGroups := vcpSpecMisc,
    vcpSubsets := vcpSubsetTv, v20Name := ascii "TV Black level/Brightness",
    v21Name := ascii "TV Black level/Luminesence", v20Flags := ddcaRw ||| ddcaStdCont },
  { code := 0x93, desc := ascii "Controls left/right audio balance", nontableFormatter := some .x93AudioBalance,
    vcpSpecGroups := vcpSpecAudio, vcpSubsets := vcpSubsetAudio, v20Name := ascii "Audio Balance L/R",
    v20Flags := ddcaRw ||| ddcaStdCont, v30Flags := ddcaRw ||| ddcaNcCont, v22Flags := ddcaRw ||| ddcaNcCont },
  { code := 0x94, desc := ascii "Select audio mode", vcpSpecGroups := vcpSpecAudio,
    vcpSubsets := vcpSubsetTv ||| vcpSubsetAudio, v20Name := ascii "Audio Stereo Mode",
    v21Name := ascii "Audio Processor Mode", v20Flags := ddcaRw ||| ddcaSimpleNc,
    defaultSlValues := x94AudioStereoModeValues },
  { code := 0x95, desc := ascii "Top left X pixel of an area of the image",
    vcpSpecGroups := vcpSpecWindow ||| vcpSpecGeometry, vcpSubsets := vcpSubsetWindow,
    v20Name := ascii "Window Position(TL_X)", v20Flags := ddcaRw ||| ddcaStdCont },
  { code := 0x96, desc := ascii "Top left Y pixel of an area of the image",
    vcpSpecGroups := vcpSpecWindow ||| vcpSpecGeometry, vcpSubsets := vcpSubsetWindow,
    v20Name := ascii "Window Position(TL_Y)", v20Flags := ddcaRw ||| ddcaStdCont },
  { code := 0x97, desc := ascii "Bottom right X pixel of an area of the image",
    vcpSpecGroups := vcpSpecWindow ||| vcpSpecGeometry, vcpSubsets := vcpSubsetWindow,
    v20Name := ascii "Window Position(BR_X)", v20Flags := ddcaRw ||| ddcaStdCont },
  { code := 0x98, desc := ascii "Bottom right Y pixel of an area of the image",
    vcpSpecGroups := vcpSpecWindow ||| vcpSpecGeometry, vcpSubsets := vcpSubsetWindow,
    v20Name := ascii "Window Position(BR_Y)", v20Flags := ddcaRw ||| ddcaStdCont },
  { code := 0x99, desc := ascii "Enables the brightness and color within a window to be different from the desktop.",
    vcpSpecGroups := vcpSpecWindow, vcpSubsets := vcpSubsetWindow, v20Name := ascii "Window control on/off",
    v20Flags := ddcaRw ||| ddcaSimpleNc, v30Flags := ddcaDeprecated ||| ddcaRw ||| ddcaSimpleNc,
    v22Flags := ddcaDeprecated ||| ddcaRw ||| ddcaSimpleNc, defaultSlValues := x99WindowControlValues },
  { code := 0x9a,
    desc := ascii "Changes the contrast ratio between the area of the window and the rest of the desktop",
    vcpSpecGroups := vcpSpecImage ||| vcpSpecWindow, vcpSubsets := vcpSubsetWindow,
    v20Name := ascii "Window background", v20Flags := ddcaRw ||| ddcaStdCont },
  { code := 0x9b, desc := ascii "Decrease shifts toward magenta, increase shifts toward yellow",
    vcpSpecGroups := vcpSpecImage ||| vcpSpecWindow, vcpSubsets := vcpSubsetColor ||| vcpSubsetProfile,
    v20Name := ascii "6 axis hue control: Red", v20Flags := ddcaRw ||| ddcaStdCont },
  { code := 0x9c, desc := ascii "Decrease shifts toward green, increase shifts toward red",
    vcpSpecGroups := vcpSpecImage ||| vcpSpecWindow, vcpSubsets := vcpSubsetColor ||| vcpSubsetProfile,
    v20Name := ascii "6 axis hue control: Yellow", v20Flags := ddcaRw ||| ddcaStdCont },
  { code := 0x9d, desc := ascii "Decrease shifts toward yellow, increase shifts toward cyan",
    vcpSpecGroups := vcpSpecImage ||| vcpSpecWindow, vcpSubsets := vcpSubsetColor ||| vcpSubsetProfile,
    v20Name := ascii "6 axis hue control: Green", v20Flags := ddcaRw ||| ddcaStdCont },
  { code := 0x9e, desc := ascii "Decrease shifts toward green, increase shifts toward blue",
    vcpSpecGroups := vcpSpecImage ||| vcpSpecWindow, vcpSubsets := vcpSubsetColor ||| vcpSubsetProfile,
    v20Name := ascii "6 axis hue control: Cyan", v20Flags := ddcaRw ||| ddcaStdCont },
  { code := 0x9f, desc := ascii "Decrease shifts toward cyan, increase shifts toward magenta",
    vcpSpecGroups := vcpSpecImage ||| vcpSpecWindow, vcpSubsets := vcpSubsetColor ||| vcpSubsetProfile,
    v20Name := ascii "6 axis hue control: Blue", v20Flags := ddcaRw ||| ddcaStdCont },
  { code := 0xa0, desc := ascii "Decrease shifts toward blue, 127 no effect, increase shifts toward red",
    vcpSpecGroups := vcpSpecImage ||| vcpSpecWindow, vcpSubsets := vcpSubsetColor ||| vcpSubsetProfile,
    v20Name := ascii "6 axis hue control: Magenta", v20Flags := ddcaRw ||| ddcaStdCont },
  { code := 0xa2, desc := ascii "Turn on/off an auto setup function", vcpSpecGroups := vcpSpecImage,
    v20Name := ascii "Auto setup on/off", v20Flags := ddcaWo ||| ddcaWoNc, defaultSlValues := xa2AutoSetupValues },
  { code := 0xa4, desc := ascii "Turn selected window operation on/off, window mask",
    nontableFormatter := some .debugSlSh, tableFormatter := some .default, vcpSpecGroups := vcpSpecImage,
    vcpSubsets := vcpSubsetWindow, v20Name := ascii "Turn the selected window operation on/off",
    v30Name := ascii "Window mask control", v22Name := ascii "Window mask control",
    v20Flags := ddcaRw ||| ddcaComplexNc, v30Flags := ddcaRw ||| ddcaNormalTable,
    v22Flags := ddcaRw ||| ddcaNormalTable },
  { code := 0xa5, desc := ascii "Change selected window (as defined by 95h..98h)",
    vcpSpecGroups := vcpSpecImage ||| vcpSpecWindow, vcpSubsets := vcpSubsetWindow,
    v20Name := ascii "Change the selected window", v20Flags := ddcaRw ||| ddcaSimpleNc,
    defaultSlValues := xa5WindowSelectValues },
  { code := 0xaa, desc := ascii "Indicates screen orientation", vcpSpecGroups := vcpSpecImage ||| vcpSpecGeometry,
    v20Name := ascii "Screen Orientation", v20Flags := ddcaRo ||| ddcaSimpleNc,
    defaultSlValues := xaaScreenOrientationValues },
  { code := 0xac, desc := ascii "Horizontal sync signal frequency as determined by the display",
    nontableFormatter := some .xacHorizontalFrequency, vcpSpecGroups := vcpSpecMisc,
    v20Name := ascii "Horizontal frequency", v20Flags := ddcaRo ||| ddcaComplexCont },
  { code := 0xae, desc := ascii "Vertical sync signal frequency as determined by the display, in .01 hz",
    nontableFormatter := some .xaeVerticalFrequency, vcpSpecGroups := vcpSpecMisc,
    v20Name := ascii "Vertical frequency", v20Flags := ddcaRo ||| ddcaComplexCont },
  { code := 0xb0, desc := ascii "Store/restore the user saved values for the current mode.",
    vcpSpecGroups := vcpSpecPreset, v20Name := ascii "Settings", v20Flags := ddcaWo ||| ddcaWoNc,
    defaultSlValues := xb0SettingsValues },
  { code := 0xb2, desc := ascii "LCD sub-pixel structure", vcpSpecGroups := vcpSpecMisc,
    v20Name := ascii "Flat panel sub-pixel layout", v20Flags := ddcaRo ||| ddcaSimpleNc,
    defaultSlValues := xb2FlatPanelSubpixelLayoutValues },
  { code := 0xb4, desc := ascii "Indicates timing mode being sent by host", nontableFormatter := some .debugBytes,
    vcpSpecGroups := vcpSpecControl, v21Name := ascii "Source Timing Mode", v21Flags := ddcaRw ||| ddcaComplexNc,
    v30Flags := ddcaRw ||| ddcaNormalTable, v22Flags := ddcaRw ||| ddcaNormalTable },
  { code := 0xb6, desc := ascii "Indicates the base technology type", vcpSpecGroups := vcpSpecMisc,
    v20Name := ascii "Display technology type", v20Flags := ddcaRo ||| ddcaSimpleNc,
    defaultSlValues := xb6V20DisplayTechnologyTypeValues, v21SlValues := xb6DisplayTechnologyTypeValues },
  { code := 0xb7, desc := ascii "Video mode and status of a DPVL capable monitor", nontableFormatter := some .slByte,
    vcpSpecGroups := vcpSpecDpvl, vcpSubsets := vcpSubsetDpvl, v20Name := ascii "Monitor status",
    v20Flags := ddcaRo ||| ddcaComplexNc },
  { code := 0xb8, desc := ascii "Counter for DPVL packets received", nontableFormatter := some .ushort,
    vcpSpecGroups := vcpSpecDpvl, vcpSubsets := vcpSubsetDpvl, v20Name := ascii "Packet count",
    v20Flags := ddcaRw ||| ddcaComplexCont },
  { code := 0xb9, desc := ascii "X origin of the monitor in the vertical screen", nontableFormatter := some .ushort,
    vcpSpecGroups := vcpSpecDpvl, vcpSubsets := vcpSubsetDpvl, v20Name := ascii "Monitor X origin",
    v20Flags := ddcaRw ||| ddcaComplexCont },
  { code := 0xba, desc := ascii "Y origin of the monitor in the vertical screen", nontableFormatter := some .ushort,
    vcpSpecGroups := vcpSpecDpvl, vcpSubsets := vcpSubsetDpvl, v20Name := ascii "Monitor Y origin",
    v20Flags := ddcaRw ||| ddcaComplexCont },
  { code := 0xbb, desc := ascii "Error counter for the DPVL header", nontableFormatter := some .ushort,
    vcpSpecGroups := vcpSpecDpvl, vcpSubsets := vcpSubsetDpvl, v20Name := ascii "Header error count",
    v20Flags := ddcaRw ||| ddcaComplexCont },
  { code := 0xbc, desc := ascii "CRC error counter for the DPVL body", nontableFormatter := some .ushort,
    vcpSpecGroups := vcpSpecDpvl, vcpSubsets := vcpSubsetDpvl, v20Name := ascii "Body CRC error count",
    v20Flags := ddcaRw ||| ddcaComplexCont },
  { code := 0xbd, desc := ascii "Assigned identification number for the monitor", nontableFormatter := some .ushort,
    vcpSpecGroups := vcpSpecDpvl, vcpSubsets := vcpSubsetDpvl, v20Name := ascii "Client ID",
    v20Flags := ddcaRw ||| ddcaComplexCont },
  { code := 0xbe, desc := ascii "Indicates status of the DVI link", nontableFormatter := some .xbeLinkControl,
    vcpSpecGroups := vcpSpecDpvl, vcpSubsets := vcpSubsetDpvl, v20Name := ascii "Link control",
    v20Flags := ddcaRw ||| ddcaComplexNc },
  { code := 0xc0, desc := ascii "Active power on time in hours", nontableFormatter := some .xc0DisplayUsageTime,
    vcpSpecGroups := vcpSpecMisc, v20Name := ascii "Display usage time", v20Flags := ddcaRo ||| ddcaComplexCont },
  { code := 0xc2,
    desc := ascii "Length in bytes of non-volatile storage in the display available for writing a display " ++
      ascii "descriptor, max 256", vcpSpecGroups := vcpSpecMisc, v20Name := ascii "Display descriptor length",
    v20Flags := ddcaRo ||| ddcaStdCont },
  { code := 0xc3, desc := ascii "Reads (writes) a display descriptor from (to) non-volatile storage in the display.",
    tableFormatter := some .default, vcpSpecGroups := vcpSpecMisc, v20Name := ascii "Transmit display descriptor",
    v20Flags := ddcaRw ||| ddcaNormalTable },
  { code := 0xc4,
    desc := ascii "If enabled, the display descriptor shall be displayed when no video is being received.",
    nontableFormatter := some .debugBytes, vcpSpecGroups := vcpSpecMisc,
    v20Name := ascii "Enable display of \'display descriptor\'", v20Flags := ddcaRw ||| ddcaComplexNc },
  { code := 0xc6, desc := ascii "A 2 byte value used to allow an application to only operate with known products.",
    nontableFormatter := some .x6cApplicationEnableKey, vcpSpecGroups := vcpSpecMisc,
    v20Name := ascii "Application enable key", v20Flags := ddcaRo ||| ddcaComplexNc },
  { code := 0xc8, desc := ascii "Mfg id of controller and 2 byte manufacturer-specific controller type",
    nontableFormatter := some .xc8DisplayControllerType, vcpSpecGroups := vcpSpecMisc ||| vcpSpecControl,
    v20Name := ascii "Display controller type", v20Flags := ddcaRo ||| ddcaComplexNc,
    defaultSlValues := xc8DisplayControllerTypeValues },
  { code := 0xc9, desc := ascii "2 byte firmware level", nontableFormatter := some .xc9XdfVersion,
    vcpSpecGroups := vcpSpecMisc ||| vcpSpecControl, v20Name := ascii "Display firmware level",
    v20Flags := ddcaRo ||| ddcaComplexNc },
  { code := 0xca, desc := ascii "Sets and indicates the current operational state of OSD (and buttons in v2.2)",
    nontableFormatter := some .xcaOsdButtonControl, vcpSpecGroups := vcpSpecMisc ||| vcpSpecControl,
    v20Name := ascii "OSD", v22Name := ascii "OSD/Button Control", v20Flags := ddcaRw ||| ddcaSimpleNc,
    v22Flags := ddcaRw ||| ddcaComplexNc, defaultSlValues := xcaOsdValues, v22SlValues := xcaV22OsdButtonSlValues },
  { code := 0xcc, desc := ascii "On Screen Display language", vcpSpecGroups := vcpSpecMisc ||| vcpSpecControl,
    v20Name := ascii "OSD Language", v20Flags := ddcaRw ||| ddcaSimpleNc, defaultSlValues := xccOsdLanguageValues },
  { code := 0xcd, desc := ascii "Control up to 16 LED (or similar) indicators to indicate system status",
    nontableFormatter := some .debugSlSh, vcpSpecGroups := vcpSpecMisc, v21Name := ascii "Status Indicators",
    v21Flags := ddcaRw ||| ddcaComplexNc },
  { code := 0xce, desc := ascii "Rows and characters/row of auxiliary display",
    nontableFormatter := some .xceAuxDisplaySize, vcpSpecGroups := vcpSpecMisc,
    v20Name := ascii "Auxiliary display size", v20Flags := ddcaRo ||| ddcaComplexNc },
  { code := 0xcf, desc := ascii "Sets contents of auxiliary display device", vcpSpecGroups := vcpSpecMisc,
    v20Name := ascii "Auxiliary display data", v20Flags := ddcaWo ||| ddcaWoTable },
  { code := 0xd0, desc := ascii "Selects the active output", tableFormatter := some .default,
    vcpSpecGroups := vcpSpecMisc, v20Name := ascii "Output select", v20Flags := ddcaRw ||| ddcaSimpleNc,
    v30Flags := ddcaRw ||| ddcaNormalTable, v22Flags := ddcaRw ||| ddcaSimpleNc,
    defaultSlValues := xd0V2OutputSelectValues },
  { code := 0xd2, desc := ascii "Read an Asset Tag to/from the display", tableFormatter := some .default,
    vcpSpecGroups := vcpSpecMisc, v21Name := ascii "Asset Tag", v21Flags := ddcaRw ||| ddcaNormalTable },
  { code := 0xd4, desc := ascii "Stereo video mode", nontableFormatter := some .slByte,
    vcpSpecGroups := vcpSpecMisc ||| vcpSpecImage, v20Name := ascii "Stereo video mode",
    v20Flags := ddcaRw ||| ddcaComplexNc },
  { code := 0xd6, desc := ascii "DPM and DPMS status", vcpSpecGroups := vcpSpecMisc ||| vcpSpecControl,
    v20Name := ascii "Power mode", v20Flags := ddcaRw ||| ddcaSimpleNc, defaultSlValues := xd6PowerModeValues },
  { code := 0xd7, desc := ascii "Controls an auxiliary power output from a display to a host device",
    vcpSpecGroups := vcpSpecMisc, v20Name := ascii "Auxiliary power output", v20Flags := ddcaRw ||| ddcaSimpleNc,
    defaultSlValues := xd7AuxPowerOutputValues },
  { code := 0xda, desc := ascii "Controls scan characteristics (aka format)",
    vcpSpecGroups := vcpSpecGeometry ||| vcpSpecImage, vcpSubsets := vcpSubsetCrt, v20Name := ascii "Scan format",
    v21Name := ascii "Scan mode", v20Flags := ddcaRw ||| ddcaSimpleNc, defaultSlValues := xdaScanModeValues },
  { code := 0xdb, desc := ascii "Controls aspects of the displayed image (TV applications)",
    vcpSpecGroups := vcpSpecControl, vcpSubsets := vcpSubsetTv, v21Name := ascii "Image Mode",
    v21Flags := ddcaRw ||| ddcaSimpleNc, defaultSlValues := xdbImageModeValues },
  { code := 0xdc, desc := ascii "Type of application used on display", vcpSpecGroups := vcpSpecImage,
    vcpSubsets := vcpSubsetColor, v20Name := ascii "Display Mode", v30Name := ascii "Display Application",
    v20Flags := ddcaRw ||| ddcaSimpleNc, defaultSlValues := xdcDisplayApplicationValues },
  { code := 0xde, desc := ascii "Operation mode (2.0) or scratch pad (3.0/2.2)", nontableFormatter := some .debugSlSh,
    vcpSpecGroups := vcpSpecMisc, v20Name := ascii "Operation Mode", v21Name := ascii "Scratch Pad",
    v20Flags := ddcaWo ||| ddcaWoNc, v21Flags := ddcaRw ||| ddcaComplexNc },
  { code := 0xdf, desc := ascii "MCCS version", nontableFormatter := some .xc9XdfVersion,
    vcpSpecGroups := vcpSpecMisc, v20Name := ascii "VCP Version", v20Flags := ddcaRo ||| ddcaComplexNc }]

end Ddc
