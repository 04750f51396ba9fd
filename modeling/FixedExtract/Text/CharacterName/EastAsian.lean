import FixedExtract.Text.CharacterName.Run
/-!
# Names in the scripts of East Asia

The characters from U+3000 to U+FFFF that have names of their own: kana, radicals, syllables of Yi and Vai, and the
presentation forms.
-/

namespace FixedExtract.Text

/-- The runs of these characters, in ascending order. -/
def eastAsianNames : List NameRun :=
  [⟨12288, ["aIDEOGRAPHIC SPACEmCOMMAmFULL STOPaDITTO MARKaJAPANESE INDUSTRIAL STANDARD SYMBOLaIDE",
     "OGRAPHIC ITERATION MARKmCLOSING MARKmNUMBER ZEROaLEFT ANGLE BRACKETaRIGHT ANGLE BRACKETaLEFT",
     " DOUBLE ANGLE BRACKETaRIGHT DOUBLE ANGLE BRACKETaLEFT CORNER BRACKETaRIGHT CORNER BRACKETaLE",
     "FT WHITE CORNER BRACKETaRIGHT WHITE CORNER BRACKETaLEFT BLACK LENTICULAR BRACKETaRIGHT BLACK",
     " LENTICULAR BRACKETaPOSTAL MARKaGETA MARKaLEFT TORTOISE SHELL BRACKETaRIGHT TORTOISE SHELL B",
     "RACKETaLEFT WHITE LENTICULAR BRACKETaRIGHT WHITE LENTICULAR BRACKETaLEFT WHITE TORTOISE SHEL",
     "L BRACKETaRIGHT WHITE TORTOISE SHELL BRACKETaLEFT WHITE SQUARE BRACKETaRIGHT WHITE SQUARE BR",
     "ACKETaWAVE DASHaREVERSED DOUBLE PRIME QUOTATION MARKaDOUBLE PRIME QUOTATION MARKaLOW DOUBLE ",
     "PRIME QUOTATION MARKaPOSTAL MARK FACEaHANGZHOU NUMERAL ONErTWOsHREErFOURsIVErSIXsEVENrEIGHTr",
     "NINEaIDEOGRAPHIC LEVEL TONE MARKmRISING TONE MARKmDEPARTING TONE MARKmENTERING TONE MARKaHAN",
     "GUL SINGLE DOT TONE MARKhDOUBLE DOT TONE MARKaWAVY DASHaVERTICAL KANA REPEAT MARKvWITH VOICE",
     "D SOUND MARKvMARK UPPER HALFvWITH VOICED SOUND MARK UPPER HALFvMARK LOWER HALFaCIRCLED POSTA",
     "L MARKaIDEOGRAPHIC TELEGRAPH LINE FEED SEPARATOR SYMBOLaHANGZHOU NUMERAL TENsWENTYsHIRTYaVER",
     "TICAL IDEOGRAPHIC ITERATION MARKaMASU MARKaPART ALTERNATION MARKaIDEOGRAPHIC VARIATION INDIC",
     "ATORmHALF FILL SPACE"]⟩,
   ⟨12353, ["aHIRAGANA LETTER SMALL AqAqSMALL IqIqSMALL UqUqSMALL EqEqSMALL OqOqKAqGAqKIqGIqKUqGUq",
     "KEqGEqKOqGOqSAqZAqSIqZIqSUqZUqSEqZEqSOqZOqTAqDAqTIqDIqSMALL TUqTUqDUqTEqDEqTOqDOqNArIrUrErOq",
     "HAqBAqPAqHIqBIqPIqHUqBUqPUqHEqBEqPEqHOqBOqPOqMArIrUrErOqSMALL YAqYAqSMALL YUqYUqSMALL YOqYOq",
     "RArIrUrErOqSMALL WAqWArIrErOqNqVUqSMALL KAxE"]⟩,
   ⟨12441, ["aCOMBINING KATAKANA-HIRAGANA VOICED SOUND MARKzdSEMI-VOICED SOUND MARKaKATAKANA-HIRAG",
     "ANA VOICED SOUND MARKsSEMI-VOICED SOUND MARKaHIRAGANA ITERATION MARKjVOICED ITERATION MARKjD",
     "IGRAPH YORIaKATAKANA-HIRAGANA DOUBLE HYPHENi LETTER SMALL AqAqSMALL IqIqSMALL UqUqSMALL EqEq",
     "SMALL OqOqKAqGAqKIqGIqKUqGUqKEqGEqKOqGOqSAqZAqSIqZIqSUqZUqSEqZEqSOqZOqTAqDAqTIqDIqSMALL TUqT",
     "UqDUqTEqDEqTOqDOqNArIrUrErOqHAqBAqPAqHIqBIqPIqHUqBUqPUqHEqBEqPEqHOqBOqPOqMArIrUrErOqSMALL YA",
     "qYAqSMALL YUqYUqSMALL YOqYOqRArIrUrErOqSMALL WAqWArIrErOqNqVUqSMALL KAxEqVArIrErOjMIDDLE DOT",
     "i-HIRAGANA PROLONGED SOUND MARKi ITERATION MARKjVOICED ITERATION MARKjDIGRAPH KOTO"]⟩,
   ⟨12549, ["aBOPOMOFO LETTER BqPqMqFqDqTqNqLqGqKqHqJqQqXqZHqCHqSHqRqZqCqSqAqOqErHqAIqEIqAUqOUqANq",
     "ENqANGqENGrRqIqUqIUqVqNGqGNqIHqO WITH DOT ABOVEqNN"]⟩,
   ⟨12593, ["aHANGUL LETTER KIYEOKoSSANGKIYEOKoKIYEOK-SIOSoNIEUNt-CIEUCuHIEUHoTIKEUToSSANGTIKEUToR",
     "IEULt-KIYEOKuMIEUMuPIEUPuSIOSuTHIEUTHuPHIEUPHuHIEUHoMIEUMoPIEUPoSSANGPIEUPoPIEUP-SIOSoSIOSpS",
     "ANGSIOSoIEUNGoCIEUCoSSANGCIEUCoCHIEUCHoKHIEUKHoTHIEUTHoPHIEUPHoHIEUHoApEoYAqEoEOpoYEOqoOoWAq",
     "EoOEoYOoUoWEOqpIoYUoEUoYIoIhFILLERhLETTER SSANGNIEUNoNIEUN-TIKEUTuSIOSuPANSIOSoRIEUL-KIYEOK-",
     "SIOSuTIKEUTuPIEUP-SIOSvANSIOSuYEORINHIEUHoMIEUM-PIEUPuSIOSuPANSIOSoKAPYEOUNMIEUMoPIEUP-KIYEO",
     "KuTIKEUTuSIOS-KIYEOKzaTIKEUTuCIEUCuTHIEUTHoKAPYEOUNPIEUPwSSANGPIEUPoSIOS-KIYEOKtNIEUNtTIKEUT",
     "tPIEUPtCIEUCoPANSIOSoSSANGIEUNGoYESIEUNGw-SIOSxPANSIOSoKAPYEOUNPHIEUPHoSSANGHIEUHoYEORINHIEU",
     "HpO-YAtErIpU-YEOtrIoARAEAtE"]⟩,
   ⟨12688, ["aIDEOGRAPHIC ANNOTATION LINKING MARKxREVERSE MARKxONE MARKxTWO MARKyHREE MARKxFOUR MA",
     "RKxTOP MARKxMIDDLE MARKxBOTTOM MARKxFIRST MARKxSECOND MARKxTHIRD MARKxFOURTH MARKxHEAVEN MAR",
     "KxEARTH MARKxMAN MARKaBOPOMOFO LETTER BUqZIqJIqGUqEErNNqOOrNNqIRqANNqINNqUNNqIMqNGGqAINNrUNN",
     "rMqOMrNGqINNNjFINAL LETTER PwTwKwHjLETTER GHqLHqZYjFINAL LETTER GjLETTER GWqKWqOEqAHaCJK STR",
     "OKE TlWGlXGlBXGlSWlHZZnGmPmZWGlSZWGlHZTnZPmPWGmZWnZZlNlHlSlPlSPlDlHZmGlSZmWZmTmGlPDmZlTNlSZZ",
     "mWGlHXWGmZZZGlPGlQ"]⟩,
   ⟨12784, ["aKATAKANA LETTER SMALL KUwSIxUwTOwNUwHAxIxUxExOwMUwRAxIxUxExOaPARENTHESIZED HANGUL KI",
     "YEOKvNIEUNvTIKEUTvRIEULvMIEUMvPIEUPvSIOSvIEUNGvCIEUCwHIEUCHvKHIEUKHvTHIEUTHvPHIEUPHvHIEUHvKI",
     "YEOK AvNIEUN AvTIKEUT AvRIEUL AvMIEUM AvPIEUP AvSIOS AvIEUNG AvCIEUC AwHIEUCH AvKHIEUKH AvTH",
     "IEUTH AvPHIEUPH AvHIEUH AvCIEUC UoKOREAN CHARACTER OJEONzh HU"]⟩,
   ⟨12832, ["aPARENTHESIZED IDEOGRAPH ONEyTWOzaHREEyFOURzaIVEySIXzaEVENyEIGHTyNINEyTENyMOONyFIREyW",
     "ATERzaOODyMETALyEARTHySUNzaTOCKyHAVEySOCIETYyNAMEySPECIALyFINANCIALyCONGRATULATIONyLABORyREP",
     "RESENTyCALLySTUDYzaUPERVISEyENTERPRISEyRESOURCEyALLIANCEyFESTIVALyRESTySELFyREACHaCIRCLED ID",
     "EOGRAPH QUESTIONsKINDERGARTENsSCHOOLsKOTOiNUMBER TEN ON BLACK SQUAREqWENTY ON BLACK SQUAREqH",
     "IRTY ON BLACK SQUAREpFORTY ON BLACK SQUAREqIFTY ON BLACK SQUAREpSIXTY ON BLACK SQUAREqEVENTY",
     " ON BLACK SQUAREpEIGHTY ON BLACK SQUAREaPARTNERSHIP SIGNaCIRCLED NUMBER TWENTY ONEwTWOxHREEw",
     "FOURxIVEwSIXxEVENwEIGHTwNINEqHIRTYv ONEwTWOxHREEwFOURxIVEiHANGUL KIYEOKpNIEUNpTIKEUTpRIEULpM",
     "IEUMpPIEUPpSIOSpIEUNGpCIEUCqHIEUCHpKHIEUKHpTHIEUTHpPHIEUPHpHIEUHpKIYEOK ApNIEUN ApTIKEUT ApR",
     "IEUL ApMIEUM ApPIEUP ApSIOS ApIEUNG ApCIEUC AqHIEUCH ApKHIEUKH ApTHIEUTH ApPHIEUPH ApHIEUH A",
     "iKOREAN CHARACTER CHAMKOzaJUEUIiHANGUL IEUNG UaKOREAN STANDARD SYMBOLaCIRCLED IDEOGRAPH ONEs",
     "TWOtHREEsFOURtIVEsSIXtEVENsEIGHTsNINEsTENsMOONsFIREsWATERtOODsMETALsEARTHsSUNtTOCKsHAVEsSOCI",
     "ETYsNAMEsSPECIALsFINANCIALsCONGRATULATIONsLABORsSECRETsMALEsFEMALEsSUITABLEsEXCELLENTsPRINTs",
     "ATTENTIONsITEMsRESTsCOPYuRRECTsHIGHsCENTREsLOWtEFTsRIGHTsMEDICINEsRELIGIONsSTUDYtUPERVISEsEN",
     "TERPRISEsRESOURCEsALLIANCEsNIGHTiNUMBER THIRTY SIXxEVENwEIGHTwNINEpFORTYu ONEvTWOwHREEvFOURw",
     "IVEvSIXwEVENvEIGHTvNINEqIFTYaIDEOGRAPHIC TELEGRAPH SYMBOL FOR JANUARYziFEBRUARYziMARCHziAPRI",
     "LziMAYziJUNEzkLYziAUGUSTziSEPTEMBERziOCTOBERziNOVEMBERziDECEMBERaSQUARE HGhERGiVaLIMITED LIA",
     "BILITY SIGNaCIRCLED KATAKANA ArIrUrErOrKAsIsUsEsOrSAsIsUsEsOrTAsIsUsEsOrNAsIsUsEsOrHAsIsUsEs",
     "OrMAsIsUsEsOrYAsUsOrRAsIsUsEsOrWAsIsEsOaSQUARE ERA NAME REIWAhAPAATOiRUHUAiNPEAiARUhININGUjT",
     "IhUONhESUKUUDOiEKAAhONSUiOMUhKAIRIjRATTOkORIIhGARONjNMAiIGAjNIIhKYURIIhGIRUDAAhKIROlGURAMUlM",
     "EETORUlWATTOhGURAMUnTONhKURUZEIROkOONEiEESUiORUNAjOPOhSAIKURUjNTIIMUiIRINGUiENTIlOhDAASUiESI",
     "iORUhTONhNANOiOTTOhHAITUhPAASENTOkTUhBAARERUhPIASUTORUjKURUkOhBIRUhHUARADDOjIITOhBUSSYERUhHU",
     "RANiEKUTAARUhPESOjNIHIhHERUTUhPENSUjEZIhBEETAhPOINTOhBORUTOhHONhPONDOhHOORUkNhMAIKUROkRUjHHA",
     "jRUKUjNSYONiIKURONjRIlBAARUiEGAlTONjETORUhYAADOkRUiUANhRITTORUjRAiUPIIjUBURUiEMUjNTOGENhWATT",
     "OaIDEOGRAPHIC TELEGRAPH SYMBOL FOR HOUR ZEROznONEznTWOzoHREEznFOURzoIVEznSIXzoEVENznEIGHTznN",
     "INEznTENznELEVENznTWELVEzoHIRTEENznFOURTEENzoIFTEENznSIXTEENzoEVENTEENznEIGHTEENznNINETEENzn",
     "TWENTYzt-ONEzuTWOzvHREEzuFOURaSQUARE HPAhDAhAUhBARhOVhPChDMj SQUAREDkCUBEDhIUhERA NAME HEISE",
     "IqSYOUWAqTAISYOUqMEIZIhCORPORATIONhPA AMPShNAhMU AiAhKAiBhMBhGBhCALhKCALhPFhNFhMU FkGiGhKGhH",
     "ZhKHZhMHZhGHZhTHZhMU LiLhDLhKLhFMhNMhMU MiMhCMhKMhMM SQUAREDhCM SQUAREDhM SQUAREDhKM SQUARED",
     "hMM CUBEDhCM CUBEDhM CUBEDhKM CUBEDhM OVER Sp SQUAREDhPAhKPAhMPAhGPAhRADk OVER Sr SQUAREDhPS",
     "hNShMU SiShPVhNVhMU ViVhKVhMV MEGAhPWhNWhMU WiWhKWhMW MEGAhK OHMhM OHMhAMhBQhCCiDi OVER KGiO",
     "hDBhGYhHAiPhINhKKiM CAPITALiThLMiNiOGiXhMB SMALLiILiOLhPHiMiPMiRhSRiVhWBhV OVER MhA OVER MaI",
     "DEOGRAPHIC TELEGRAPH SYMBOL FOR DAY ONEzmTWOznHREEzmFOURznIVEzmSIXznEVENzmEIGHTzmNINEzmTENzm",
     "ELEVENzmTWELVEznHIRTEENzmFOURTEENznIFTEENzmSIXTEENznEVENTEENzmEIGHTEENzmNINETEENzmTWENTYzs-O",
     "NEztTWOzuHREEztFOURzuIVEztSIXzuEVENztEIGHTztNINEznHIRTYzs-ONEaSQUARE GAL"]⟩,
   ⟨19904, ["aHEXAGRAM FOR THE CREATIVE HEAVENrRECEPTIVE EARTHnDIFFICULTY AT THE BEGINNINGnYOUTHFU",
     "L FOLLYnWAITINGnCONFLICTnTHE ARMYnHOLDING TOGETHERnSMALL TAMINGnTREADINGnPEACEnSTANDSTILLnFE",
     "LLOWSHIPnGREAT POSSESSIONnMODESTYnENTHUSIASMnFOLLOWINGnWORK ON THE DECAYEDnAPPROACHnCONTEMPL",
     "ATIONnBITING THROUGHnGRACEnSPLITTING APARTnRETURNnINNOCENCEnGREAT TAMINGnMOUTH CORNERSnGREAT",
     " PREPONDERANCEnTHE ABYSMAL WATERrCLINGING FIREnINFLUENCEnDURATIONnRETREATnGREAT POWERnPROGRE",
     "SSnDARKENING OF THE LIGHTnTHE FAMILYnOPPOSITIONoBSTRUCTIONnDELIVERANCEpCREASEnINCREASEnBREAK",
     "THROUGHnCOMING TO MEETnGATHERING TOGETHERnPUSHING UPWARDnOPPRESSIONnTHE WELLnREVOLUTIONnTHE ",
     "CAULDRONrAROUSING THUNDERrKEEPING STILL MOUNTAINnDEVELOPMENTnTHE MARRYING MAIDENnABUNDANCEnT",
     "HE WANDERERrGENTLE WINDrJOYOUS LAKEnDISPERSIONnLIMITATIONnINNER TRUTHnSMALL PREPONDERANCEnAF",
     "TER COMPLETIONnBEFORE COMPLETION"]⟩,
   ⟨40960, ["aYI SYLLABLE ITnXnnPnEToXooPmATnXnnPmUOXooPmOTnXnnPmEXnmWUmBIToXooPoETpXppPnAToXooPnU",
     "OXppPnOToXooPnEXooPnUToXooPoRXpnYToXooPoRXpmPIToXooPoEXppPnAToXooPnUOXppPnOToXooPnUToXooPoRX",
     "pnYToXooPoRXpmBBITpXppPpETqXqqPoATpXppPoUOXqqPoOTpXppPoEXppPoUTpXppPpRXqoYTpXppPmNBITpXppPpE",
     "XqqPoATpXppPoOTpXppPoUTpXppPpRXqoYTpXppPpRXqmHMITpXppPpEXqqPoATpXppPoUOXqqPoOTpXppPoUTpXppPp",
     "RXqoYXppPpRXqmMIToXooPoEXppPnAToXooPnUOTpXppPnOToXooPnEXonUToXooPoRXpnYToXooPmFIToXooPnAToXo",
     "oPnOXooPnUToXooPoRXpnYToXooPmVIToXooPoETpXppPnAToXooPnOToXooPnEXoPnUToXooPoRXpnYToXooPoRXpmD",
     "IToXooPoEXppPnAToXooPnUOXpnOToXooPnEXooPnUToXooPoRXpmTIToXooPoEXppPnAToXooPnUOTpXppPnOToXooP",
     "nEXooPnUToXooPoRXpmDDITpXppPpEXqqPoATpXppPoUOXqqPoOTpXppPoEXppPoUTpXppPpRXqmNDITpXppPpEXqoAT",
     "pXppPoOTpXppPoEXppPoUTpXppPpRXqmHNITpXppPpETqXqqPoATpXppPoUOXqoOTpXpPoEXppPoUTmNIToXooPoEXpp",
     "PnAXooPnUOXppPnOToXooPnEXooPnUToXooPoRXpmHLITpXppPpEXqqPoATpXppPoUOXqqPoOXppPoEXppPoUTpXppPp",
     "RXqoYTpXppPpRXqmLIToXooPoETpXppPnAToXooPnUOTpXppPnOToXooPnEXooPnUToXooPoRXpnYToXooPoRXpmGITo",
     "XooPoETpXppPnAToXooPnUOTpXppPnOToXooPnEToXooPnUToXooPoRXpmKIToXooPoEXppPnAToXooPnUOXppPnOToX",
     "ooPnEToXooPnUToXooPoRXpmGGITpXppEXqqPoATpXppPoUOTqXqqPoOTpXppPoETpXppPoUTpXppPpRXqmMGIEXqoAT",
     "pXppPoUOXqqPoOTpXppPoEXppPoUTpXppPpRXqmHXITpXppPpETqXqqPoATpXppPoUOTqXqqPoOTpXppPoEXppPmNGIE",
     "XqqPoATpXppPoUOTqXqoOTpXppPoEXppPmHIToEXpnAToXooPnUOTpXppPnOToXooPnEXooPmWAToXooPnUOXppPnOXo",
     "oPnEXooPmZIToXooPoEXppPnAToXooPnUOXppPnOToXooPnEXooPnUToXooPoRXpnYToXooPoRXpmCIToXooPoETpXpp",
     "PnAToXooPnUOXppPnOToXooPnEXooPnUToXooPoRXpnYToXooPoRXpmZZITpXppPpETqXqqPoATpXppPoOXppPoEXppP",
     "oUXppPpRXqoYTpXppPpRXqmNZITpXppPpEXqqPoATpXppPoUOXqoOXpPoEXpoUXppPpRXqoYTpXppPpRXqmSIToXooPo",
     "EXppPnAToXooPnUOXppPnOToXooPnEXooPnUToXooPoRXpnYToXooPoRXpnSITpXppPpEXqqPoATpXppPoOTpXppPoEX",
     "ppPoUTpXppPoYTpXppPpRXqmZHATpXppPoUOXqqPoOTpXppPoETpXppPoUTpXppPpRXqoYTpXppPpRXqmCHATpXppPoU",
     "OTqXqqPoOTpXppPoETpXppPoUXppPpRXqoYTpXppPpRXqmRRAXpoUOXqoOTpXppPoETpXppPoUTpXppPpRXqoYTpXppP",
     "pRXqmNRATpXppPoOXppPoETpXppPoUTpXppPpRXqoYTpXppPpRXqmSHATpXppPoUOXqqPoOTpXppPoETpXppPoUTpXpp",
     "PpRXqoYTpXppPpRXqmRAToXooPnUOXppPnOToXooPnEXooPnUToXooPoRXpnYToXooPoRXpmJIToXooPoETpXppPnUOT",
     "pXppPnOToXooPnUToXooPoRXpnYToXooPoRXpmQIToXooPoETpXppPnUOTpXppPnOToXooPnUToXooPoRXpnYToXooPo",
     "RXpmJJITpXppPpETqXqqPoUOXqqPoOTpXppPoUTpXppPpRXqoYTpXppPmNJITpXppPpETqXqqPoUOXqoOTpXppPoUXpp",
     "PpRXqoYTpXppPpRXqnYITpXppPpETqXqqPoUOXqqPoOTpXppPoUTpXppPmXIToXooPoETpXppPnUOXpnOToXooPnYToX",
     "ooPoRXpmYIToXooPoETpXppPnUOTpXppPnOToXooPnUToXooPoRXpnYToXooPoRXp"]⟩,
   ⟨42128, ["aYI RADICAL QOTlLIlKITlNYIPlCYPlSSIlGGOPmEPlMIlHXITlLYRlBBUTlMOPlYOlPUTlHXUOlTATlGAlZ",
     "UPlCYTlDDURlBURlGGUOlNYOPlTUlOPlJJUTlZOTlPYTlHMOlYITlVURlSHYlVEPlZAlJOlNZUPlJJYlGOTlJJIElWOl",
     "DUlSHURlLIElCYmUOPmIPlHXOPlSHATlZURlSHOPlCHElZZIETlNBIElKE"]⟩,
   ⟨42192, ["aLISU LETTER BAmPAnHAmDAmTAnHAmGAmKAnHAmJAmCAnHAmDZAmTSAoHAmMAmNAmLAmSAmZHAnAmNGAmHAm",
     "XAmHHAmFAmWAmSHAmYAmGHAmAnEmEnUmImOmUnEnHmOEmTONE MYA TIrNA POrMYA CYAvBOvNAvJEUfPUNCTUATION",
     " COMMArFULL STOPaVAI SYLLABLE EEpNnHEEnWEEqNnPEEnBHEEoEEnMBEEnKPEEnMGBEEnGBEEnFEEnVEEnTEEoHE",
     "EnDHEEpHEEnLEEnREEnDEEnNDEEnSEEoHEEnZEEoHEEnCEEnJEEnNJEEnYEEnKEEnNGGEEnGEEnMEEnNEEoYEEnIoNnH",
     "IpNnWIpNnPInBHIoInMBInKPInMGBInGBInFInVInTIoHInDHIpHInLInRInDInNDInSIoHInZIoHInCInJInNJInYIn",
     "KInNGGInGInMInNIoYInAoNnNGANnHApNnWApNnPAnBHAoAnMBAnKPAqNnMGBAnGBAnFAnVAnTAoHAnDHApHAnLAnRAn",
     "DAnNDAnSAoHAnZAoHAnCAnJAnNJAnYAnKApNnNGGAnGAnMAnNAoYAnOOpNnHOOnWOOqNnPOOnBHOOoOOnMBOOnKPOOnM",
     "GBOOnGBOOnFOOnVOOnTOOoHOOnDHOOpHOOnLOOnROOnDOOnNDOOnSOOoHOOnZOOoHOOnCOOnJOOnNJOOnYOOnKOOnNGG",
     "OOnGOOnMOOnNOOoYOOnUoNnHUpNnWUpNnPUnBHUoUnMBUnKPUnMGBUnGBUnFUnVUnTUoHUnDHUpHUnLUnRUnDUnNDUnS",
     "UoHUnZUoHUnCUnJUnNJUnYUnKUnNGGUnGUnMUnNUoYUnOoNnNGONnHOpNnWOpNnPOnBHOoOnMBOnKPOnMGBOnGBOqNnF",
     "OnVOnTOoHOnDHOpHOnLOnROnDOnNDOnSOoHOnZOoHOnCOnJOnNJOnYOnKOnNGGOnGOnMOnNOoYOnEoNnNGENnHEpNnWE",
     "pNnPEnBHEoEnMBEnKPEqNnMGBEnGBEqNnFEnVEnTEoHEnDHEpHEnLEnREnDEnNDEnSEoHEnZEoHEnCEnJEnNJEnYEnKE",
     "nNGGErNnGEpNnMEnNEoYEoGnLENGTHENEReCOMMAeFULL STOPeQUESTION MARKeSYLLABLE NDOLE FAtKAtSOOgMB",
     "OL FEENGlKEENGlTINGlNIIlBANGlFAAlTAAlDANGmOONGlKUNGlTONGlDO-OlJONGeDIGIT ZEROkONEkTWOlHREEkF",
     "OURlIVEkSIXlEVENkEIGHTkNINEeSYLLABLE NDOLE MAtDO"]⟩,
   ⟨42560, ["aCYRILLIC CAPITAL LETTER ZEMLYAjSMALL LETTER ZEMLYAjCAPITAL LETTER DZELOjSMALL LETTER",
     " DZELOjCAPITAL LETTER REVERSED DZEjSMALL LETTER REVERSED DZEjCAPITAL LETTER IOTAjSMALL LETTE",
     "R IOTAjCAPITAL LETTER DJERVjSMALL LETTER DJERVjCAPITAL LETTER MONOGRAPH UKjSMALL LETTER MONO",
     "GRAPH UKjCAPITAL LETTER BROAD OMEGAjSMALL LETTER BROAD OMEGAjCAPITAL LETTER NEUTRAL YERjSMAL",
     "L LETTER NEUTRAL YERjCAPITAL LETTER YERU WITH BACK YERjSMALL LETTER YERU WITH BACK YERjCAPIT",
     "AL LETTER IOTIFIED YATjSMALL LETTER IOTIFIED YATjCAPITAL LETTER REVERSED YUjSMALL LETTER REV",
     "ERSED YUjCAPITAL LETTER IOTIFIED AjSMALL LETTER IOTIFIED AjCAPITAL LETTER CLOSED LITTLE YUSj",
     "SMALL LETTER CLOSED LITTLE YUSjCAPITAL LETTER BLENDED YUSjSMALL LETTER BLENDED YUSjCAPITAL L",
     "ETTER IOTIFIED CLOSED LITTLE YUSjSMALL LETTER IOTIFIED CLOSED LITTLE YUSjCAPITAL LETTER YNjS",
     "MALL LETTER YNjCAPITAL LETTER REVERSED TSEjSMALL LETTER REVERSED TSEjCAPITAL LETTER SOFT DEj",
     "SMALL LETTER SOFT DEjCAPITAL LETTER SOFT ELjSMALL LETTER SOFT ELjCAPITAL LETTER SOFT EMjSMAL",
     "L LETTER SOFT EMjCAPITAL LETTER MONOCULAR OjSMALL LETTER MONOCULAR OjCAPITAL LETTER BINOCULA",
     "R OjSMALL LETTER BINOCULAR OjCAPITAL LETTER DOUBLE MONOCULAR OjSMALL LETTER DOUBLE MONOCULAR",
     " OjLETTER MULTIOCULAR ObOMBINING CYRILLIC VZMETtTEN MILLIONS SIGNtHUNDRED MILLIONS SIGNtTHOU",
     "SAND MILLIONS SIGNaSLAVONIC ASTERISKaCOMBINING CYRILLIC LETTER UKRAINIAN IEzbIzbYIzbUzbHARD ",
     "SIGNzbYERUzbSOFT SIGNzbOMEGAtKAVYKAtPAYEROKbYRILLIC KAVYKAjPAYEROKjCAPITAL LETTER DWEjSMALL ",
     "LETTER DWEjCAPITAL LETTER DZWEjSMALL LETTER DZWEjCAPITAL LETTER ZHWEjSMALL LETTER ZHWEjCAPIT",
     "AL LETTER CCHEjSMALL LETTER CCHEjCAPITAL LETTER DZZEjSMALL LETTER DZZEjCAPITAL LETTER TE WIT",
     "H MIDDLE HOOKjSMALL LETTER TE WITH MIDDLE HOOKjCAPITAL LETTER TWEjSMALL LETTER TWEjCAPITAL L",
     "ETTER TSWEjSMALL LETTER TSWEjCAPITAL LETTER TSSEjSMALL LETTER TSSEjCAPITAL LETTER TCHEjSMALL",
     " LETTER TCHEjCAPITAL LETTER HWEjSMALL LETTER HWEjCAPITAL LETTER SHWEjSMALL LETTER SHWEjCAPIT",
     "AL LETTER DOUBLE OjSMALL LETTER DOUBLE OjCAPITAL LETTER CROSSED OjSMALL LETTER CROSSED OaMOD",
     "IFIER LETTER CYRILLIC HARD SIGNzaSOFT SIGNaCOMBINING CYRILLIC LETTER EFzbIOTIFIED EaBAMUM LE",
     "TTER AnKAnUnKUnEEnREEnTAEnOnNYInInLAnPAnRIIpEEnLEEEEnMEEEEnTAAnNDAAoJAEMnMnSUUnMUnSHIIoIoHEU",
     "XoEUXnKYEEoETnNUAEpoJUAEnYOQnSHUnYUQoAnNSHAnKEUXnPEUXnNJEEoTEEnPUEnWUEnPEEnFEEnRUnLUnMInNInR",
     "EUXoAEnKENnNGKWAENpGApAnSHOnPUAEnFUoOMnWAnNAnLInPInLOQnKOnMBENnRENnMENoAnTInKInMOoBAAnTETnKP",
     "AnTENnNTUUnSAMBAnFAAMAEnKOVUUpGHOMgCOMBINING MARK KOQNDONvTUKWENTISgNJAEMLIgFULL STOPgCOLONi",
     "MMAgSEMICOLONgQUESTION MARK"]⟩,
   ⟨42752, ["aMODIFIER LETTER CHINESE TONE YIN PINGzfANG PINGzfIN SHANGzfANG SHANGzfIN QUzfANG QUz",
     "fIN RUzfANG RUqEXTRA-HIGH DOTTED TONE BARqHIGH DOTTED TONE BARqMID DOTTED TONE BARqLOW DOTTE",
     "D TONE BARqEXTRA-LOW DOTTED TONE BARwHIGH DOTTED LEFT-STEM TONE BARqHIGH DOTTED LEFT-STEM TO",
     "NE BARqMID DOTTED LEFT-STEM TONE BARqLOW DOTTED LEFT-STEM TONE BARqEXTRA-LOW DOTTED LEFT-STE",
     "M TONE BARwHIGH LEFT-STEM TONE BARqHIGH LEFT-STEM TONE BARqMID LEFT-STEM TONE BARqLOW LEFT-S",
     "TEM TONE BARqEXTRA-LOW LEFT-STEM TONE BARqDOT VERTICAL BARuSLASHuHORIZONTAL BARqLOWER RIGHT ",
     "CORNER ANGLEqRAISED UP ARROWxDOWN ARROWxEXCLAMATION MARKxINVERTED EXCLAMATION MARKqLOW INVER",
     "TED EXCLAMATION MARKqSTRESS AND HIGH TONEzcLOW TONEaLATIN CAPITAL LETTER EGYPTOLOGICAL ALEFg",
     "SMALL LETTER EGYPTOLOGICAL ALEFgCAPITAL LETTER EGYPTOLOGICAL AINgSMALL LETTER EGYPTOLOGICAL ",
     "AINgCAPITAL LETTER HENGgSMALL LETTER HENGgCAPITAL LETTER TZgSMALL LETTER TZgCAPITAL LETTER T",
     "RESILLOgSMALL LETTER TRESILLOgCAPITAL LETTER CUATRILLOgSMALL LETTER CUATRILLOgCAPITAL LETTER",
     " CUATRILLO WITH COMMAgSMALL LETTER CUATRILLO WITH COMMAgLETTER SMALL CAPITAL FzcSgCAPITAL LE",
     "TTER AAgSMALL LETTER AAgCAPITAL LETTER AOgSMALL LETTER AOgCAPITAL LETTER AUgSMALL LETTER AUg",
     "CAPITAL LETTER AVgSMALL LETTER AVgCAPITAL LETTER AV WITH HORIZONTAL BARgSMALL LETTER AV WITH",
     " HORIZONTAL BARgCAPITAL LETTER AYgSMALL LETTER AYgCAPITAL LETTER REVERSED C WITH DOTgSMALL L",
     "ETTER REVERSED C WITH DOTgCAPITAL LETTER K WITH STROKEgSMALL LETTER K WITH STROKEgCAPITAL LE",
     "TTER K WITH DIAGONAL STROKEgSMALL LETTER K WITH DIAGONAL STROKEgCAPITAL LETTER K WITH STROKE",
     " AND DIAGONAL STROKEgSMALL LETTER K WITH STROKE AND DIAGONAL STROKEgCAPITAL LETTER BROKEN Lg",
     "SMALL LETTER BROKEN LgCAPITAL LETTER L WITH HIGH STROKEgSMALL LETTER L WITH HIGH STROKEgCAPI",
     "TAL LETTER O WITH LONG STROKE OVERLAYgSMALL LETTER O WITH LONG STROKE OVERLAYgCAPITAL LETTER",
     " O WITH LOOPgSMALL LETTER O WITH LOOPgCAPITAL LETTER OOgSMALL LETTER OOgCAPITAL LETTER P WIT",
     "H STROKE THROUGH DESCENDERgSMALL LETTER P WITH STROKE THROUGH DESCENDERgCAPITAL LETTER P WIT",
     "H FLOURISHgSMALL LETTER P WITH FLOURISHgCAPITAL LETTER P WITH SQUIRREL TAILgSMALL LETTER P W",
     "ITH SQUIRREL TAILgCAPITAL LETTER Q WITH STROKE THROUGH DESCENDERgSMALL LETTER Q WITH STROKE ",
     "THROUGH DESCENDERgCAPITAL LETTER Q WITH DIAGONAL STROKEgSMALL LETTER Q WITH DIAGONAL STROKEg",
     "CAPITAL LETTER R ROTUNDAgSMALL LETTER R ROTUNDAgCAPITAL LETTER RUM ROTUNDAgSMALL LETTER RUM ",
     "ROTUNDAgCAPITAL LETTER V WITH DIAGONAL STROKEgSMALL LETTER V WITH DIAGONAL STROKEgCAPITAL LE",
     "TTER VYgSMALL LETTER VYgCAPITAL LETTER VISIGOTHIC ZgSMALL LETTER VISIGOTHIC ZgCAPITAL LETTER",
     " THORN WITH STROKEgSMALL LETTER THORN WITH STROKEgCAPITAL LETTER THORN WITH STROKE THROUGH D",
     "ESCENDERgSMALL LETTER THORN WITH STROKE THROUGH DESCENDERgCAPITAL LETTER VENDgSMALL LETTER V",
     "ENDgCAPITAL LETTER ETgSMALL LETTER ETgCAPITAL LETTER ISgSMALL LETTER ISgCAPITAL LETTER CONgS",
     "MALL LETTER CONaMODIFIER LETTER USaLATIN SMALL LETTER DUMtLUMtMUMtNUMtRUMgLETTER SMALL CAPIT",
     "AL RUMgSMALL LETTER TUMtUMgCAPITAL LETTER INSULAR DgSMALL LETTER INSULAR DgCAPITAL LETTER IN",
     "SULAR FgSMALL LETTER INSULAR FgCAPITAL LETTER INSULAR GvTURNED INSULAR GgSMALL LETTER TURNED",
     " INSULAR GgCAPITAL LETTER TURNED LgSMALL LETTER TURNED LgCAPITAL LETTER INSULAR RgSMALL LETT",
     "ER INSULAR RgCAPITAL LETTER INSULAR SgSMALL LETTER INSULAR SgCAPITAL LETTER INSULAR TgSMALL ",
     "LETTER INSULAR TaMODIFIER LETTER LOW CIRCUMFLEX ACCENTqCOLONqSHORT EQUALS SIGNaLATIN CAPITAL",
     " LETTER SALTILLOgSMALL LETTER SALTILLOgCAPITAL LETTER TURNED HgSMALL LETTER L WITH RETROFLEX",
     " HOOK AND BELTgLETTER SINOLOGICAL DOTgCAPITAL LETTER N WITH DESCENDERgSMALL LETTER N WITH DE",
     "SCENDERgCAPITAL LETTER C WITH BARgSMALL LETTER C WITH BARzbPALATAL HOOKtH WITH PALATAL HOOKg",
     "CAPITAL LETTER B WITH FLOURISHgSMALL LETTER B WITH FLOURISHgCAPITAL LETTER F WITH STROKEgSMA",
     "LL LETTER F WITH STROKEgCAPITAL LETTER VOLAPUK AEgSMALL LETTER VOLAPUK AEgCAPITAL LETTER VOL",
     "APUK OEgSMALL LETTER VOLAPUK OEgCAPITAL LETTER VOLAPUK UEgSMALL LETTER VOLAPUK UEgCAPITAL LE",
     "TTER G WITH OBLIQUE STROKEgSMALL LETTER G WITH OBLIQUE STROKEgCAPITAL LETTER K WITH OBLIQUE ",
     "STROKEgSMALL LETTER K WITH OBLIQUE STROKEgCAPITAL LETTER N WITH OBLIQUE STROKEgSMALL LETTER ",
     "N WITH OBLIQUE STROKEgCAPITAL LETTER R WITH OBLIQUE STROKEgSMALL LETTER R WITH OBLIQUE STROK",
     "EgCAPITAL LETTER S WITH OBLIQUE STROKEgSMALL LETTER S WITH OBLIQUE STROKEgCAPITAL LETTER H W",
     "ITH HOOKvREVERSED OPEN EvSCRIPT GvL WITH BELTvSMALL CAPITAL IgLETTER SMALL CAPITAL QgCAPITAL",
     " LETTER TURNED KzdTvJ WITH CROSSED-TAILvCHIvBETAgSMALL LETTER BETAgCAPITAL LETTER OMEGAgSMAL",
     "L LETTER OMEGAgCAPITAL LETTER U WITH STROKEgSMALL LETTER U WITH STROKEgCAPITAL LETTER GLOTTA",
     "L AgSMALL LETTER GLOTTAL AgCAPITAL LETTER GLOTTAL IgSMALL LETTER GLOTTAL IgCAPITAL LETTER GL",
     "OTTAL UgSMALL LETTER GLOTTAL UgCAPITAL LETTER OLD POLISH OgSMALL LETTER OLD POLISH OgCAPITAL",
     " LETTER ANGLICANA WgSMALL LETTER ANGLICANA WgCAPITAL LETTER C WITH PALATAL HOOKvS WITH HOOKv",
     "Z WITH PALATAL HOOKvD WITH SHORT STROKE OVERLAYgSMALL LETTER D WITH SHORT STROKE OVERLAYgCAP",
     "ITAL LETTER S WITH SHORT STROKE OVERLAYgSMALL LETTER S WITH SHORT STROKE OVERLAY"]⟩,
   ⟨42960, ["aLATIN CAPITAL LETTER CLOSED INSULAR GgSMALL LETTER CLOSED INSULAR G"]⟩,
   ⟨42963, ["aLATIN SMALL LETTER DOUBLE THORN"]⟩,
   ⟨42965, ["aLATIN SMALL LETTER DOUBLE WYNNgCAPITAL LETTER MIDDLE SCOTS SgSMALL LETTER MIDDLE SCO",
     "TS SgCAPITAL LETTER SIGMOID SgSMALL LETTER SIGMOID S"]⟩,
   ⟨42994, ["aMODIFIER LETTER CAPITAL CyFyQaLATIN CAPITAL LETTER REVERSED HALF HgSMALL LETTER REVE",
     "RSED HALF HgEPIGRAPHIC LETTER SIDEWAYS IaMODIFIER LETTER CAPITAL H WITH STROKEqSMALL LIGATUR",
     "E OEaLATIN LETTER SMALL CAPITAL TURNED MgEPIGRAPHIC LETTER REVERSED FziPyINVERTED Mza LONGAy",
     "ARCHAIC MaSYLOTI NAGRI LETTER AuInSIGN DVISVARAnLETTER UuEuOnSIGN HASANTAnLETTER KOvHOuGOvHO",
     "nSIGN ANUSVARAnLETTER COvHOuJOvHOuTTOwHOuDDOwHOuTOvHOuDOvHOuNOuPOvHOuBOvHOuMOuROuLOuRROuSOuH",
     "OnVOWEL SIGN AyIyUyEyOOnPOETRY MARK-1za2za3za4nSIGN ALTERNATE HASANTA"]⟩,
   ⟨43056, ["aNORTH INDIC FRACTION ONE QUARTERzaHALFvTHREE QUARTERSvONE SIXTEENTHzaEIGHTHvTHREE SI",
     "XTEENTHSmQUARTER MARKmPLACEHOLDER MARKmRUPEE MARKmQUANTITY MARK"]⟩,
   ⟨43072, ["aPHAGS-PA LETTER KArHAqGAqNGAqCArHAqJAqNYAqTArHAqDAqNAqPArHAqBAqMAqTSAsHAqDZAqWAqZHAr",
     "AqSMALL AqYAqRAqLAqSHArAqHAqAqIqUqEqOqQAqXAqFAqGGAqEEjSUBJOINED LETTER WAzbYAjLETTER TTAsHAq",
     "DDAqNNAqALTERNATE YAqVOICELESS SHAvD HAqASPIRATED FAjSUBJOINED LETTER RAlPERFIXED LETTER RAj",
     "LETTER CANDRABINDUjSINGLE HEAD MARKjDOUBLE HEAD MARKjMARK SHADoDOUBLE SHAD"]⟩,
   ⟨43136, ["aSAURASHTRA SIGN ANUSVARAqVISARGAlLETTER AtAsItIsUtUsVOCALIC RzcRzbLzcLsEtEsAIsOtOsAU",
     "sKAtHAsGAtHAsNGAsCAtHAsJAtHAsNYAsTTAuHAsDDAuHAsNNAsTAtHAsDAtHAsNAsPAtHAsBAtHAsMAsYAsRAsLAsVA",
     "sSHAtSAtAsHAsLLAlCONSONANT SIGN HAARUlVOWEL SIGN AAwIxIwUxUwVOCALIC RzgRzfLzgLwExEwAIwOxOwAU",
     "lSIGN VIRAMAqCANDRABINDU"]⟩,
   ⟨43214, ["aSAURASHTRA DANDAmOUBLE DANDAmIGIT ZEROrONErTWOsHREErFOURsIVErSIXsEVENrEIGHTrNINE"]⟩,
   ⟨43232, ["aCOMBINING DEVANAGARI DIGIT ZEROzcONEzcTWOzdHREEzcFOURzdIVEzcSIXzdEVENzcEIGHTzcNINEvL",
     "ETTER AzdUzdKAzdNAzdPAzdRAzdVIvSIGN AVAGRAHAaDEVANAGARI SIGN SPACING CANDRABINDUqCANDRABINDU",
     " VIRAMAqDOUBLE CANDRABINDU VIRAMAqCANDRABINDU TWOzeHREEzdAVAGRAHAqPUSHPIKAlGAP FILLERlCARETl",
     "HEADSTROKElSIGN SIDDHAMlJAIN OMlLETTER AYlVOWEL SIGN AYaKAYAH LI DIGIT ZEROpONEpTWOqHREEpFOU",
     "RqIVEpSIXqEVENpEIGHTpNINEjLETTER KArHAqGAqNGAqSArHAqZAqNYAqTAqHTAqNAqPArHAqMAqDAqBAqRAqYAqLA",
     "qWAqTHAqHAqVAqCAqAqOEqIqOOjVOWEL UEpEpUpEEpOjTONE PLOPHUoCALYAt PLOPHUjSIGN CWIoSHYAaREJANG ",
     "LETTER KAoGAoNGAoTAoDAoNAoPAoBAoMAoCAoJAoNYAoSAoRAoLAoYAoWAoHAoMBAoNGGApDApYJAoAhVOWEL SIGN ",
     "IsUsEsAIsOsAUsEUtAhCONSONANT SIGN NGxwRwHhVIRAMA"]⟩,
   ⟨43359, ["aREJANG SECTION MARKaHANGUL CHOSEONG TIKEUT-MIEUMxPIEUPxSIOSxCIEUCqRIEUL-KIYEOKwSSANG",
     "KIYEOKwTIKEUTwSSANGTIKEUTwMIEUMwPIEUPwSSANGPIEUPwKAPYEOUNPIEUPwSIOSwCIEUCwKHIEUKHqMIEUM-KIYE",
     "OKwTIKEUTwSIOSqPIEUP-SIOS-THIEUTHwKHIEUKHwHIEUHqSSANGSIOS-PIEUPqIEUNG-RIEULwHIEUHqSSANGCIEUC",
     "-HIEUHvTHIEUTHqPHIEUPH-HIEUHqHIEUH-SIOSqSSANGYEORINHIEUH"]⟩,
   ⟨43392, ["aJAVANESE SIGN PANYANGGAoCECAKoLAYARoWIGNYANjLETTER AqI KAWIrrIqUqPA CEREKqNGA LELETz",
     "a RASWADIqEqAIqOqKAs SASAKtMURDAqGAs MURDAqNGAqCAs MURDAqJAqNYA MURDAqJA MAHAPRANAqNYAqTTAt ",
     "MAHAPRANAqDDAt MAHAPRANAqNA MURDAqTAs MURDAqDAs MAHAPRANAqNAqPAs MURDAqBAs MURDAqMAqYAqRAs A",
     "GUNGqLAqWAqSA MURDAuAHAPRANAsqHAjSIGN CECAK TELUjVOWEL SIGN TARUNGvOLONGuWULUy MELIKuSUKUy M",
     "ENDUTuTALINGuDIRGA MUREuPEPETjCONSONANT SIGN KERETyPENGKALyCAKRAjPANGKONjLEFT RERENGGANjRIGH",
     "T RERENGGANjPADA ANDAPoMADYAoLUHURoWINDUoPANGKAToLINGSApUNGSIoADEGs ADEGoPISELEHjTURNED PADA",
     " PISELEH"]⟩,
   ⟨43471, ["aJAVANESE PANGRANGKEPjDIGIT ZEROpONEpTWOqHREEpFOURqIVEpSIXqEVENpEIGHTpNINE"]⟩,
   ⟨43486, ["aJAVANESE PADA TIRTA TUMETESoISEN-ISENaMYANMAR LETTER SHAN GHAuCHAuJHAuNNAuBHAiSIGN S",
     "HAN SAWiMODIFIER LETTER SHAN REDUPLICATIONiLETTER TAI LAING NYAzaFAzaGAzbHAzaJAzbHAzaDDAzcHA",
     "zaNNAiTAI LAING DIGIT ZEROyONEyTWOzaHREEyFOURzaIVEySIXzaEVENyEIGHTyNINEiLETTER TAI LAING LLA",
     "zaDAzbHAzaBAzbHA"]⟩,
   ⟨43520, ["aCHAM LETTER AmImUmEmAImOmKAnHAmGAnHAmNGUEoAmCHAoHAmJAnHAmNHUEoAoJAmTAnHAmDAnHAmNUEnA",
     "mDDAmPAnPAnHAmBAnHAmMUEnAmBBAmYAmRAmLAmVAmSSAnAmHAfVOWEL SIGN AAqIrIqEIqUqOErqAIrUqUEfCONSON",
     "ANT SIGN YAuRAuLAuWA"]⟩,
   ⟨43584, ["aCHAM LETTER FINAL KsGsNGfCONSONANT SIGN FINAL NGfLETTER FINAL CHsTsNsPsYsRsLsSSfCONS",
     "ONANT SIGN FINAL MzbH"]⟩,
   ⟨43600, ["aCHAM DIGIT ZEROlONElTWOmHREElFOURmIVElSIXmEVENlEIGHTlNINE"]⟩,
   ⟨43612, ["aCHAM PUNCTUATION SPIRALrDANDAsOUBLE DANDArTRIPLE DANDAaMYANMAR LETTER KHAMTI GAwCAxH",
     "AwJAxHAwNYAwTTAyHAwDDAyHAxHAwNAwSAwHAxHAwFAiMODIFIER LETTER KHAMTI REDUPLICATIONiLETTER KHAM",
     "TI XAwZAwRAjOGOGRAM KHAMTI OAYyQNyHMiSYMBOL AITON EXCLAMATIONvONEvTWOiLETTER AITON RAiSIGN P",
     "AO KAREN TONEnTAI LAING TONE-2zd5iLETTER SHWE PALAUNG CHAzdSHAaTAI VIET LETTER LOW KOqHIGH K",
     "OqLOW KHOqHIGH KHOqLOW KHHOqHIGH KHHOqLOW GOqHIGH GOqLOW NGOqHIGH NGOqLOW COqHIGH COqLOW CHO",
     "qHIGH CHOqLOW SOqHIGH SOqLOW NYOqHIGH NYOqLOW DOqHIGH DOqLOW TOqHIGH TOqLOW THOqHIGH THOqLOW",
     " NOqHIGH NOqLOW BOqHIGH BOqLOW POqHIGH POqLOW PHOqHIGH PHOqLOW FOqHIGH FOqLOW MOqHIGH MOqLOW",
     " YOqHIGH YOqLOW ROqHIGH ROqLOW LOqHIGH LOqLOW VOqHIGH VOqLOW HOqHIGH HOqLOW OqHIGH OjMAI KAN",
     "GjVOWEL AApIpUEqpEpOjMAI KHITjVOWEL IApUEAqApAUEqYqNqMjTONE MAI EKsNUENGsTHOsSONG"]⟩,
   ⟨43739, ["aTAI VIET SYMBOL KONqNUENGqSAMqHO HOIqKOI KOIaMEETEI MAYEK LETTER EuOuCHAuNYAuTTAwHAu",
     "DDAwHAuNNAuSHAvSAnVOWEL SIGN IIyUUyAAIzaUzaAUnCHEIKHANnAHANG KHUDAMoNJInSYLLABLE REPETITION ",
     "MARKnWORD REPETITION MARKnVOWEL SIGN VISARGAoIRAMA"]⟩,
   ⟨43777, ["aETHIOPIC SYLLABLE TTHUvIvAAvEEwvO"]⟩,
   ⟨43785, ["aETHIOPIC SYLLABLE DDHUvIvAAvEEwvO"]⟩,
   ⟨43793, ["aETHIOPIC SYLLABLE DZUuIuAAuEEvuO"]⟩,
   ⟨43808, ["aETHIOPIC SYLLABLE CCHHAwUwIwAAwEExwO"]⟩,
   ⟨43816, ["aETHIOPIC SYLLABLE BBAuUuIuAAuEEvuO"]⟩,
   ⟨43824, ["aLATIN SMALL LETTER BARRED ALPHAtA REVERSED-SCHWAtBLACKLETTER EuARRED EtE WITH FLOURI",
     "SHtLENIS FtSCRIPT G WITH CROSSED-TAILtL WITH INVERTED LAZY SzbDOUBLE MIDDLE TILDEzbMIDDLE RI",
     "NGtM WITH CROSSED-TAILtN WITH CROSSED-TAILtENG WITH CROSSED-TAILtBLACKLETTER Ozh WITH STROKE",
     "tOPEN O WITH STROKEtINVERTED OEtTURNED OE WITH STROKEzjHORIZONTAL STROKEzc OPEN-Ozj WITH STR",
     "OKEtSTIRRUP RgLETTER SMALL CAPITAL R WITH RIGHT LEGgSMALL LETTER R WITHOUT HANDLEtDOUBLE RtR",
     " WITH CROSSED-TAILtDOUBLE R WITH CROSSED-TAILtSCRIPT Rzc WITH RINGtBASELINE ESHtU WITH SHORT",
     " RIGHT LEGvBAR WITH SHORT RIGHT LEGuItTURNED UItU WITH LEFT HOOKtCHIw WITH LOW RIGHT RINGzhL",
     "EFT SERIFtX WITH LOW RIGHT RINGzdNG LEFT LEGzo AND LOW RIGHT RINGzpWITH SERIFtY WITH SHORT R",
     "IGHT LEGaMODIFIER BREVE WITH INVERTED BREVEjLETTER SMALL HENGwL WITH INVERTED LAZY SzeMIDDLE",
     " TILDEwU WITH LEFT HOOKaLATIN SMALL LETTER SAKHA YATtIOTIFIED EtOPEN OEtUOtINVERTED ALPHAaGR",
     "EEK LETTER SMALL CAPITAL OMEGAaLATIN SMALL LETTER DZ DIGRAPH WITH RETROFLEX HOOKtTS DIGRAPH ",
     "WITH RETROFLEX HOOKuURNED R WITH MIDDLE TILDEaMODIFIER LETTER SMALL TURNED WqLEFT TACKqRIGHT",
     " TACK"]⟩,
   ⟨43888, ["aCHEROKEE SMALL LETTER AwEwIwOwUwVwGAwKAwGExIxOxUxVwHAxExIxOxUxVwLAxExIxOxUxVwMAxExIx",
     "OxUwNAwHNAwNAHxExIxOxUxVwQUAyEyIyOyUyVwSAxxExIxOxUxVwDAwTAwDEwTEwDIwTIwDOxUxVxLAwTLAyEyIyOyU",
     "yVxSAyEyIyOyUyVwWAxExIxOxUxVwYAaMEETEI MAYEK LETTER KOKuSAMuLAIuMITuPAuNAuCHILuTILuKHOUuNGOU",
     "uTHOUuWAIuYANGuHUKuUNuIuPHAMuATIYAuGOKuJHAMuRAIuBAuJILuDILuGHOUuDHOUuBHAMuKOK LONSUMuLAI LON",
     "SUMuMIT LONSUMuPA LONSUMuNA LONSUMuTIL LONSUMuNGOU LONSUMuI LONSUMnVOWEL SIGN ONAPyINAPyANAP",
     "yYENAPySOUNAPyUNAPyCHEINAPyNUNGnCHEIKHEInLUM IYEKnAPUN IYEK"]⟩,
   ⟨44016, ["aMEETEI MAYEK DIGIT ZEROtONEtTWOuHREEtFOURuIVEtSIXuEVENtEIGHTtNINE"]⟩,
   ⟨55216, ["aHANGUL JUNGSEONG O-YEOtO-IrYO-AvEuEOrU-YEOtI-IrYU-AEuOrEU-AuEOvuOrI-YA-OvEuEOvtO-ItY",
     "OuUtIrARAEA-AxE"]⟩,
   ⟨55243, ["aHANGUL JONGSEONG NIEUN-RIEULxCHIEUCHrSSANGTIKEUTzd-PIEUPrTIKEUT-PIEUPySIOSzd-KIYEOKy",
     "CIEUCzaHIEUCHyTHIEUTHrRIEUL-SSANGKIYEOKxKIYEOK-HIEUHrSSANGRIEUL-KHIEUKHrRIEUL-MIEUM-HIEUHxPI",
     "EUP-TIKEUTzePHIEUPHxYESIEUNGzaORINHIEUH-HIEUHrKAPYEOUNRIEULrMIEUM-NIEUNxSSANGNIEUNrSSANGMIEU",
     "MrMIEUM-PIEUP-SIOSxCIEUCrPIEUP-TIKEUTxRIEUL-PHIEUPHxMIEUMrSSANGPIEUPrPIEUP-SIOS-TIKEUTxCIEUC",
     "yHIEUCHrSIOS-MIEUMwKAPYEOUNPIEUPsSANGSIOS-KIYEOKzcTIKEUTsIOS-PANSIOSwCIEUCxHIEUCHwTHIEUTHwHI",
     "EUHrPANSIOS-PIEUPzaKAPYEOUNPIEUPrYESIEUNG-MIEUMzbHIEUHrCIEUC-PIEUPxSSANGPIEUPrSSANGCIEUCrPHI",
     "EUPH-SIOSzaTHIEUTH"]⟩,
   ⟨64256, ["aLATIN SMALL LIGATURE FFwIwLwFIxLvLONG S TvST"]⟩,
   ⟨64275, ["aARMENIAN SMALL LIGATURE MEN NOWzdECHzdINIyVEW NOWyMEN XEH"]⟩,
   ⟨64285, ["aHEBREW LETTER YOD WITH HIRIQhPOINT JUDEO-SPANISH VARIKAhLIGATURE YIDDISH YOD YOD PAT",
     "AHiETTER ALTERNATIVE AYINoWIDE ALEFtDALETtHEtKAFtLAMEDtFINAL MEMtRESHtTAVoALTERNATIVE PLUS S",
     "IGNoSHIN WITH SHIN DOTzaIN DOTyDAGESH AND SHIN DOTzlIN DOToALEF WITH PATAHyQAMATSyMAPIQoBET ",
     "WITH DAGESHoGIMEL WITH DAGESHoDALET WITH DAGESHoHE WITH MAPIQoVAV WITH DAGESHoZAYIN WITH DAG",
     "ESH"]⟩,
   ⟨64312, ["aHEBREW LETTER TET WITH DAGESHoYOD WITH DAGESHoFINAL KAF WITH DAGESHoKAF WITH DAGESHo",
     "LAMED WITH DAGESH"]⟩,
   ⟨64318, ["aHEBREW LETTER MEM WITH DAGESH"]⟩,
   ⟨64320, ["aHEBREW LETTER NUN WITH DAGESHoSAMEKH WITH DAGESH"]⟩,
   ⟨64323, ["aHEBREW LETTER FINAL PE WITH DAGESHoPE WITH DAGESH"]⟩,
   ⟨64326, ["aHEBREW LETTER TSADI WITH DAGESHoQOF WITH DAGESHoRESH WITH DAGESHoSHIN WITH DAGESHoTA",
     "V WITH DAGESHoVAV WITH HOLAMoBET WITH RAFEoKAF WITH RAFEoPE WITH RAFEiIGATURE ALEF LAMEDaARA",
     "BIC LETTER ALEF WASLA ISOLATED FORMzaFINAL FORMoBEEH ISOLATED FORMtFINAL FORMtINITIAL FORMtM",
     "EDIAL FORMoPEH ISOLATED FORMsFINAL FORMsINITIAL FORMsMEDIAL FORMoBEHEH ISOLATED FORMuFINAL F",
     "ORMuINITIAL FORMuMEDIAL FORMoTTEHEH ISOLATED FORMvFINAL FORMvINITIAL FORMvMEDIAL FORMpEHEH I",
     "SOLATED FORMuFINAL FORMuINITIAL FORMuMEDIAL FORMpTEH ISOLATED FORMtFINAL FORMtINITIAL FORMtM",
     "EDIAL FORMoVEH ISOLATED FORMsFINAL FORMsINITIAL FORMsMEDIAL FORMoPEHEH ISOLATED FORMuFINAL F",
     "ORMuINITIAL FORMuMEDIAL FORMoDYEH ISOLATED FORMtFINAL FORMtINITIAL FORMtMEDIAL FORMoNYEH ISO",
     "LATED FORMtFINAL FORMtINITIAL FORMtMEDIAL FORMoTCHEH ISOLATED FORMuFINAL FORMuINITIAL FORMuM",
     "EDIAL FORMtEH ISOLATED FORMwFINAL FORMwINITIAL FORMwMEDIAL FORMoDDAHAL ISOLATED FORMvFINAL F",
     "ORMpAHAL ISOLATED FORMuFINAL FORMpUL ISOLATED FORMsFINAL FORMpDAL ISOLATED FORMtFINAL FORMoJ",
     "EH ISOLATED FORMsFINAL FORMoRREH ISOLATED FORMtFINAL FORMoKEHEH ISOLATED FORMuFINAL FORMuINI",
     "TIAL FORMuMEDIAL FORMoGAF ISOLATED FORMsFINAL FORMsINITIAL FORMsMEDIAL FORMpUEH ISOLATED FOR",
     "MtFINAL FORMtINITIAL FORMtMEDIAL FORMoNGOEH ISOLATED FORMuFINAL FORMuINITIAL FORMuMEDIAL FOR",
     "MpOON GHUNNA ISOLATED FORMzbFINAL FORMoRNOON ISOLATED FORMuFINAL FORMuINITIAL FORMuMEDIAL FO",
     "RMoHEH WITH YEH ABOVE ISOLATED FORMziFINAL FORMsGOAL ISOLATED FORMxFINAL FORMxINITIAL FORMxM",
     "EDIAL FORMsDOACHASHMEE ISOLATED FORMzfFINAL FORMzfINITIAL FORMzfMEDIAL FORMoYEH BARREE ISOLA",
     "TED FORMzaFINAL FORMzaWITH HAMZA ABOVE ISOLATED FORMzrFINAL FORMhSYMBOL DOT ABOVEsBELOWoTWO ",
     "DOTS ABOVExBELOWpHREE DOTS ABOVEzaBELOWzaPOINTING DOWNWARDS ABOVEztBELOWoFOUR DOTS ABOVEyBEL",
     "OWoDOUBLE VERTICAL BAR BELOWoTWO DOTS VERTICALLY ABOVEzjBELOWoRINGoSMALL TAH ABOVEyBELOWoWAS",
     "LA ABOVE"]⟩,
   ⟨64467, ["aARABIC LETTER NG ISOLATED FORMrFINAL FORMrINITIAL FORMrMEDIAL FORMoU ISOLATED FORMqF",
     "INAL FORMoOE ISOLATED FORMrFINAL FORMoYU ISOLATED FORMrFINAL FORMoU WITH HAMZA ABOVE ISOLATE",
     "D FORMoVE ISOLATED FORMrFINAL FORMoKIRGHIZ OE ISOLATED FORMzaFINAL FORMwYU ISOLATED FORMzaFI",
     "NAL FORMoE ISOLATED FORMqFINAL FORMqINITIAL FORMqMEDIAL FORMoUIGHUR KAZAKH KIRGHIZ ALEF MAKS",
     "URA INITIAL FORMzyMEDIAL FORMiIGATURE YEH WITH HAMZA ABOVE WITH ALEF ISOLATED FORMzwFINAL FO",
     "RMzsE ISOLATED FORMzuFINAL FORMzrWAW ISOLATED FORMzvFINAL FORMzrU ISOLATED FORMztFINAL FORMz",
     "rOE ISOLATED FORMzuFINAL FORMzrYU ISOLATED FORMzuFINAL FORMzrE ISOLATED FORMztFINAL FORMztIN",
     "ITIAL FORMqUIGHUR KIRGHIZ YEH WITH HAMZA ABOVE WITH ALEF MAKSURA ISOLATED FORMzzuFINAL FORMz",
     "zuINITIAL FORMiETTER FARSI YEH ISOLATED FORMyFINAL FORMyINITIAL FORMyMEDIAL FORMiIGATURE YEH",
     " WITH HAMZA ABOVE WITH JEEM ISOLATED FORMzrHAH ISOLATED FORMzrMEEM ISOLATED FORMzrALEF MAKSU",
     "RA ISOLATED FORMzrYEH ISOLATED FORMqBEH WITH JEEM ISOLATED FORMzaHAH ISOLATED FORMzaKHAH ISO",
     "LATED FORMzaMEEM ISOLATED FORMzaALEF MAKSURA ISOLATED FORMzaYEH ISOLATED FORMqTEH WITH JEEM ",
     "ISOLATED FORMzaHAH ISOLATED FORMzaKHAH ISOLATED FORMzaMEEM ISOLATED FORMzaALEF MAKSURA ISOLA",
     "TED FORMzaYEH ISOLATED FORMrHEH WITH JEEM ISOLATED FORMzbMEEM ISOLATED FORMzbALEF MAKSURA IS",
     "OLATED FORMzbYEH ISOLATED FORMqJEEM WITH HAH ISOLATED FORMzbMEEM ISOLATED FORMqHAH WITH JEEM",
     " ISOLATED FORMzaMEEM ISOLATED FORMqKHAH WITH JEEM ISOLATED FORMzbHAH ISOLATED FORMzbMEEM ISO",
     "LATED FORMqSEEN WITH JEEM ISOLATED FORMzbHAH ISOLATED FORMzbKHAH ISOLATED FORMzbMEEM ISOLATE",
     "D FORMrAD WITH HAH ISOLATED FORMzaMEEM ISOLATED FORMqDAD WITH JEEM ISOLATED FORMzaHAH ISOLAT",
     "ED FORMzaKHAH ISOLATED FORMzaMEEM ISOLATED FORMqTAH WITH HAH ISOLATED FORMzaMEEM ISOLATED FO",
     "RMqZAH WITH MEEM ISOLATED FORMqAIN WITH JEEM ISOLATED FORMzaMEEM ISOLATED FORMqGHAIN WITH JE",
     "EM ISOLATED FORMzcMEEM ISOLATED FORMqFEH WITH JEEM ISOLATED FORMzaHAH ISOLATED FORMzaKHAH IS",
     "OLATED FORMzaMEEM ISOLATED FORMzaALEF MAKSURA ISOLATED FORMzaYEH ISOLATED FORMqQAF WITH HAH ",
     "ISOLATED FORMzaMEEM ISOLATED FORMzaALEF MAKSURA ISOLATED FORMzaYEH ISOLATED FORMqKAF WITH AL",
     "EF ISOLATED FORMzaJEEM ISOLATED FORMzaHAH ISOLATED FORMzaKHAH ISOLATED FORMzaLAM ISOLATED FO",
     "RMzaMEEM ISOLATED FORMzaALEF MAKSURA ISOLATED FORMzaYEH ISOLATED FORMqLAM WITH JEEM ISOLATED",
     " FORMzaHAH ISOLATED FORMzaKHAH ISOLATED FORMzaMEEM ISOLATED FORMzaALEF MAKSURA ISOLATED FORM",
     "zaYEH ISOLATED FORMqMEEM WITH JEEM ISOLATED FORMzbHAH ISOLATED FORMzbKHAH ISOLATED FORMzbMEE",
     "M ISOLATED FORMzbALEF MAKSURA ISOLATED FORMzbYEH ISOLATED FORMqNOON WITH JEEM ISOLATED FORMz",
     "bHAH ISOLATED FORMzbKHAH ISOLATED FORMzbMEEM ISOLATED FORMzbALEF MAKSURA ISOLATED FORMzbYEH ",
     "ISOLATED FORMqHEH WITH JEEM ISOLATED FORMzaMEEM ISOLATED FORMzaALEF MAKSURA ISOLATED FORMzaY",
     "EH ISOLATED FORMqYEH WITH JEEM ISOLATED FORMzaHAH ISOLATED FORMzaKHAH ISOLATED FORMzaMEEM IS",
     "OLATED FORMzaALEF MAKSURA ISOLATED FORMzaYEH ISOLATED FORMqTHAL WITH SUPERSCRIPT ALEF ISOLAT",
     "ED FORMqREH WITH SUPERSCRIPT ALEF ISOLATED FORMqALEF MAKSURA WITH SUPERSCRIPT ALEF ISOLATED ",
     "FORMqSHADDA WITH DAMMATAN ISOLATED FORMzdKASRATAN ISOLATED FORMzdFATHA ISOLATED FORMzdDAMMA ",
     "ISOLATED FORMzdKASRA ISOLATED FORMzdSUPERSCRIPT ALEF ISOLATED FORMqYEH WITH HAMZA ABOVE WITH",
     " REH FINAL FORMzrZAIN FINAL FORMzrMEEM FINAL FORMzrNOON FINAL FORMzrALEF MAKSURA FINAL FORMz",
     "rYEH FINAL FORMqBEH WITH REH FINAL FORMzaZAIN FINAL FORMzaMEEM FINAL FORMzaNOON FINAL FORMza",
     "ALEF MAKSURA FINAL FORMzaYEH FINAL FORMqTEH WITH REH FINAL FORMzaZAIN FINAL FORMzaMEEM FINAL",
     " FORMzaNOON FINAL FORMzaALEF MAKSURA FINAL FORMzaYEH FINAL FORMrHEH WITH REH FINAL FORMzbZAI",
     "N FINAL FORMzbMEEM FINAL FORMzbNOON FINAL FORMzbALEF MAKSURA FINAL FORMzbYEH FINAL FORMqFEH ",
     "WITH ALEF MAKSURA FINAL FORMzaYEH FINAL FORMqQAF WITH ALEF MAKSURA FINAL FORMzaYEH FINAL FOR",
     "MqKAF WITH ALEF FINAL FORMzaLAM FINAL FORMzaMEEM FINAL FORMzaALEF MAKSURA FINAL FORMzaYEH FI",
     "NAL FORMqLAM WITH MEEM FINAL FORMzaALEF MAKSURA FINAL FORMzaYEH FINAL FORMqMEEM WITH ALEF FI",
     "NAL FORMzbMEEM FINAL FORMqNOON WITH REH FINAL FORMzbZAIN FINAL FORMzbMEEM FINAL FORMzbNOON F",
     "INAL FORMzbALEF MAKSURA FINAL FORMzbYEH FINAL FORMqALEF MAKSURA WITH SUPERSCRIPT ALEF FINAL ",
     "FORMqYEH WITH REH FINAL FORMzaZAIN FINAL FORMzaMEEM FINAL FORMzaNOON FINAL FORMzaALEF MAKSUR",
     "A FINAL FORMzaYEH FINAL FORMzaHAMZA ABOVE WITH JEEM INITIAL FORMzrHAH INITIAL FORMzrKHAH INI",
     "TIAL FORMzrMEEM INITIAL FORMzrHEH INITIAL FORMqBEH WITH JEEM INITIAL FORMzaHAH INITIAL FORMz",
     "aKHAH INITIAL FORMzaMEEM INITIAL FORMzaHEH INITIAL FORMqTEH WITH JEEM INITIAL FORMzaHAH INIT",
     "IAL FORMzaKHAH INITIAL FORMzaMEEM INITIAL FORMzaHEH INITIAL FORMrHEH WITH MEEM INITIAL FORMq",
     "JEEM WITH HAH INITIAL FORMzbMEEM INITIAL FORMqHAH WITH JEEM INITIAL FORMzaMEEM INITIAL FORMq",
     "KHAH WITH JEEM INITIAL FORMzbMEEM INITIAL FORMqSEEN WITH JEEM INITIAL FORMzbHAH INITIAL FORM",
     "zbKHAH INITIAL FORMzbMEEM INITIAL FORMrAD WITH HAH INITIAL FORMzaKHAH INITIAL FORMzaMEEM INI",
     "TIAL FORMqDAD WITH JEEM INITIAL FORMzaHAH INITIAL FORMzaKHAH INITIAL FORMzaMEEM INITIAL FORM",
     "qTAH WITH HAH INITIAL FORMqZAH WITH MEEM INITIAL FORMqAIN WITH JEEM INITIAL FORMzaMEEM INITI",
     "AL FORMqGHAIN WITH JEEM INITIAL FORMzcMEEM INITIAL FORMqFEH WITH JEEM INITIAL FORMzaHAH INIT",
     "IAL FORMzaKHAH INITIAL FORMzaMEEM INITIAL FORMqQAF WITH HAH INITIAL FORMzaMEEM INITIAL FORMq",
     "KAF WITH JEEM INITIAL FORMzaHAH INITIAL FORMzaKHAH INITIAL FORMzaLAM INITIAL FORMzaMEEM INIT",
     "IAL FORMqLAM WITH JEEM INITIAL FORMzaHAH INITIAL FORMzaKHAH INITIAL FORMzaMEEM INITIAL FORMz",
     "aHEH INITIAL FORMqMEEM WITH JEEM INITIAL FORMzbHAH INITIAL FORMzbKHAH INITIAL FORMzbMEEM INI",
     "TIAL FORMqNOON WITH JEEM INITIAL FORMzbHAH INITIAL FORMzbKHAH INITIAL FORMzbMEEM INITIAL FOR",
     "MzbHEH INITIAL FORMqHEH WITH JEEM INITIAL FORMzaMEEM INITIAL FORMzaSUPERSCRIPT ALEF INITIAL ",
     "FORMqYEH WITH JEEM INITIAL FORMzaHAH INITIAL FORMzaKHAH INITIAL FORMzaMEEM INITIAL FORMzaHEH",
     " INITIAL FORMzbAMZA ABOVE WITH MEEM MEDIAL FORMzrHEH MEDIAL FORMqBEH WITH MEEM MEDIAL FORMza",
     "HEH MEDIAL FORMqTEH WITH MEEM MEDIAL FORMzaHEH MEDIAL FORMrHEH WITH MEEM MEDIAL FORMzbHEH ME",
     "DIAL FORMqSEEN WITH MEEM MEDIAL FORMzbHEH MEDIAL FORMrHEEN WITH MEEM MEDIAL FORMzcHEH MEDIAL",
     " FORMqKAF WITH LAM MEDIAL FORMzaMEEM MEDIAL FORMqLAM WITH MEEM MEDIAL FORMqNOON WITH MEEM ME",
     "DIAL FORMzbHEH MEDIAL FORMqYEH WITH MEEM MEDIAL FORMzaHEH MEDIAL FORMqSHADDA WITH FATHA MEDI",
     "AL FORMzdDAMMA MEDIAL FORMzdKASRA MEDIAL FORMqTAH WITH ALEF MAKSURA ISOLATED FORMzaYEH ISOLA",
     "TED FORMqAIN WITH ALEF MAKSURA ISOLATED FORMzaYEH ISOLATED FORMqGHAIN WITH ALEF MAKSURA ISOL",
     "ATED FORMzcYEH ISOLATED FORMqSEEN WITH ALEF MAKSURA ISOLATED FORMzbYEH ISOLATED FORMrHEEN WI",
     "TH ALEF MAKSURA ISOLATED FORMzcYEH ISOLATED FORMqHAH WITH ALEF MAKSURA ISOLATED FORMzaYEH IS",
     "OLATED FORMqJEEM WITH ALEF MAKSURA ISOLATED FORMzbYEH ISOLATED FORMqKHAH WITH ALEF MAKSURA I",
     "SOLATED FORMzbYEH ISOLATED FORMqSAD WITH ALEF MAKSURA ISOLATED FORMzaYEH ISOLATED FORMqDAD W",
     "ITH ALEF MAKSURA ISOLATED FORMzaYEH ISOLATED FORMqSHEEN WITH JEEM ISOLATED FORMzcHAH ISOLATE",
     "D FORMzcKHAH ISOLATED FORMzcMEEM ISOLATED FORMzcREH ISOLATED FORMrEEN WITH REH ISOLATED FORM",
     "rAD WITH REH ISOLATED FORMqDAD WITH REH ISOLATED FORMqTAH WITH ALEF MAKSURA FINAL FORMzaYEH ",
     "FINAL FORMqAIN WITH ALEF MAKSURA FINAL FORMzaYEH FINAL FORMqGHAIN WITH ALEF MAKSURA FINAL FO",
     "RMzcYEH FINAL FORMqSEEN WITH ALEF MAKSURA FINAL FORMzbYEH FINAL FORMrHEEN WITH ALEF MAKSURA ",
     "FINAL FORMzcYEH FINAL FORMqHAH WITH ALEF MAKSURA FINAL FORMzaYEH FINAL FORMqJEEM WITH ALEF M",
     "AKSURA FINAL FORMzbYEH FINAL FORMqKHAH WITH ALEF MAKSURA FINAL FORMzbYEH FINAL FORMqSAD WITH",
     " ALEF MAKSURA FINAL FORMzaYEH FINAL FORMqDAD WITH ALEF MAKSURA FINAL FORMzaYEH FINAL FORMqSH",
     "EEN WITH JEEM FINAL FORMzcHAH FINAL FORMzcKHAH FINAL FORMzcMEEM FINAL FORMzcREH FINAL FORMrE",
     "EN WITH REH FINAL FORMrAD WITH REH FINAL FORMqDAD WITH REH FINAL FORMqSHEEN WITH JEEM INITIA",
     "L FORMzcHAH INITIAL FORMzcKHAH INITIAL FORMzcMEEM INITIAL FORMrEEN WITH HEH INITIAL FORMrHEE",
     "N WITH HEH INITIAL FORMqTAH WITH MEEM INITIAL FORMqSEEN WITH JEEM MEDIAL FORMzbHAH MEDIAL FO",
     "RMzbKHAH MEDIAL FORMrHEEN WITH JEEM MEDIAL FORMzcHAH MEDIAL FORMzcKHAH MEDIAL FORMqTAH WITH ",
     "MEEM MEDIAL FORMqZAH WITH MEEM MEDIAL FORMqALEF WITH FATHATAN FINAL FORMzkISOLATED FORMaORNA",
     "TE LEFT PARENTHESIShRIGHT PARENTHESISaARABIC LIGATURE RAHIMAHU ALLAAHsDI ALLAAHU ANHzhAAzhUM",
     "zjAAziNNAqSALLALLAAHU ALAYHI WA-AALIHqALAYHI AS-SALAAMwM AS-SALAAMxAA AS-SALAAMw AS-SALAATU ",
     "WAS-SALAAMqQUDDISA SIRRAHqSALLALLAHU ALAYHI WAAALIHEE WA-SALLAMqALAYHAA AS-SALAAMqTABAARAKA ",
     "WA-TAAALAAqRAHIMAHUM ALLAAHqTEH WITH JEEM WITH MEEM INITIAL FORMzaHAH WITH JEEM FINAL FORMzo",
     "INITIAL FORMzjMEEM INITIAL FORMzaKHAH WITH MEEM INITIAL FORMzaMEEM WITH JEEM INITIAL FORMzkH",
     "AH INITIAL FORMzkKHAH INITIAL FORMqJEEM WITH MEEM WITH HAH FINAL FORMzpINITIAL FORMqHAH WITH",
     " MEEM WITH YEH FINAL FORMzkALEF MAKSURA FINAL FORMqSEEN WITH HAH WITH JEEM INITIAL FORMzbJEE",
     "M WITH HAH INITIAL FORMzlALEF MAKSURA FINAL FORMzbMEEM WITH HAH FINAL FORMzpINITIAL FORMzlJE",
     "EM INITIAL FORMzlMEEM FINAL FORMzqINITIAL FORMrAD WITH HAH WITH HAH FINAL FORMznINITIAL FORM",
     "zaMEEM WITH MEEM FINAL FORMrHEEN WITH HAH WITH MEEM FINAL FORMzqINITIAL FORMzcJEEM WITH YEH ",
     "FINAL FORMzcMEEM WITH KHAH FINAL FORMzrINITIAL FORMzmMEEM FINAL FORMzrINITIAL FORMqDAD WITH ",
     "HAH WITH ALEF MAKSURA FINAL FORMzaKHAH WITH MEEM FINAL FORMzpINITIAL FORMqTAH WITH MEEM WITH",
     " HAH FINAL FORMzoINITIAL FORMzkMEEM INITIAL FORMzkYEH FINAL FORMqAIN WITH JEEM WITH MEEM FIN",
     "AL FORMzaMEEM WITH MEEM FINAL FORMzpINITIAL FORMzkALEF MAKSURA FINAL FORMqGHAIN WITH MEEM WI",
     "TH MEEM FINAL FORMzmYEH FINAL FORMzmALEF MAKSURA FINAL FORMqFEH WITH KHAH WITH MEEM FINAL FO",
     "RMzpINITIAL FORMqQAF WITH MEEM WITH HAH FINAL FORMzkMEEM FINAL FORMqLAM WITH HAH WITH MEEM F",
     "INAL FORMzjYEH FINAL FORMzjALEF MAKSURA FINAL FORMzaJEEM WITH JEEM INITIAL FORMzpFINAL FORMz",
     "aKHAH WITH MEEM FINAL FORMzpINITIAL FORMzaMEEM WITH HAH FINAL FORMzoINITIAL FORMqMEEM WITH H",
     "AH WITH JEEM INITIAL FORMzkMEEM INITIAL FORMzkYEH FINAL FORMzbJEEM WITH HAH INITIAL FORMzlME",
     "EM INITIAL FORMzbKHAH WITH JEEM INITIAL FORMzlMEEM INITIAL FORM"]⟩,
   ⟨64914, ["aARABIC LIGATURE MEEM WITH JEEM WITH KHAH INITIAL FORMqHEH WITH MEEM WITH JEEM INITIA",
     "L FORMzkMEEM INITIAL FORMqNOON WITH HAH WITH MEEM INITIAL FORMzkALEF MAKSURA FINAL FORMzbJEE",
     "M WITH MEEM FINAL FORMzqINITIAL FORMzlALEF MAKSURA FINAL FORMzbMEEM WITH YEH FINAL FORMzlALE",
     "F MAKSURA FINAL FORMqYEH WITH MEEM WITH MEEM FINAL FORMzpINITIAL FORMqBEH WITH KHAH WITH YEH",
     " FINAL FORMqTEH WITH JEEM WITH YEH FINAL FORMzkALEF MAKSURA FINAL FORMzaKHAH WITH YEH FINAL ",
     "FORMzkALEF MAKSURA FINAL FORMzaMEEM WITH YEH FINAL FORMzkALEF MAKSURA FINAL FORMqJEEM WITH M",
     "EEM WITH YEH FINAL FORMzbHAH WITH ALEF MAKSURA FINAL FORMzbMEEM WITH ALEF MAKSURA FINAL FORM",
     "qSEEN WITH KHAH WITH ALEF MAKSURA FINAL FORMrAD WITH HAH WITH YEH FINAL FORMrHEEN WITH HAH W",
     "ITH YEH FINAL FORMqDAD WITH HAH WITH YEH FINAL FORMqLAM WITH JEEM WITH YEH FINAL FORMzaMEEM ",
     "WITH YEH FINAL FORMqYEH WITH HAH WITH YEH FINAL FORMzaJEEM WITH YEH FINAL FORMzaMEEM WITH YE",
     "H FINAL FORMqMEEM WITH MEEM WITH YEH FINAL FORMqQAF WITH MEEM WITH YEH FINAL FORMqNOON WITH ",
     "HAH WITH YEH FINAL FORMqQAF WITH MEEM WITH HAH INITIAL FORMqLAM WITH HAH WITH MEEM INITIAL F",
     "ORMqAIN WITH MEEM WITH YEH FINAL FORMqKAF WITH MEEM WITH YEH FINAL FORMqNOON WITH JEEM WITH ",
     "HAH INITIAL FORMqMEEM WITH KHAH WITH YEH FINAL FORMqLAM WITH JEEM WITH MEEM INITIAL FORMqKAF",
     " WITH MEEM WITH MEEM FINAL FORMqLAM WITH JEEM WITH MEEM FINAL FORMqNOON WITH JEEM WITH HAH F",
     "INAL FORMqJEEM WITH HAH WITH YEH FINAL FORMqHAH WITH JEEM WITH YEH FINAL FORMqMEEM WITH JEEM",
     " WITH YEH FINAL FORMqFEH WITH MEEM WITH YEH FINAL FORMqBEH WITH HAH WITH YEH FINAL FORMqKAF ",
     "WITH MEEM WITH MEEM INITIAL FORMqAIN WITH JEEM WITH MEEM INITIAL FORMqSAD WITH MEEM WITH MEE",
     "M INITIAL FORMrEEN WITH KHAH WITH YEH FINAL FORMqNOON WITH JEEM WITH YEH FINAL FORM"]⟩,
   ⟨64975, ["aARABIC LIGATURE SALAAMUHU ALAYNAA"]⟩,
   ⟨65008, ["aARABIC LIGATURE SALLA USED AS KORANIC STOP SIGN ISOLATED FORMqQALA USED AS KORANIC S",
     "TOP SIGN ISOLATED FORMqALLAH ISOLATED FORMrKBAR ISOLATED FORMqMOHAMMAD ISOLATED FORMqSALAM I",
     "SOLATED FORMqRASOUL ISOLATED FORMqALAYHE ISOLATED FORMqWASALLAM ISOLATED FORMqSALLA ISOLATED",
     " FORMvLLAHOU ALAYHE WASALLAMqJALLAJALALOUHOUaRIAL SIGNaARABIC LIGATURE BISMILLAH AR-RAHMAN A",
     "R-RAHEEMqSUBHAANAHU WA TAAALAAqAZZA WA JALLaVARIATION SELECTOR-1t2t3t4t5t6t7t8t9t10u1u2u3u4u",
     "5u6aPRESENTATION FORM FOR VERTICAL COMMAzgIDEOGRAPHIC COMMAzsFULL STOPzgCOLONzgSEMICOLONzgEX",
     "CLAMATION MARKzgQUESTION MARKzgLEFT WHITE LENTICULAR BRACKETzgRIGHT WHITE LENTICULAR BRAKCET",
     "zgHORIZONTAL ELLIPSIS"]⟩,
   ⟨65056, ["aCOMBINING LIGATURE LEFT HALFtRIGHT HALFkDOUBLE TILDE LEFT HALFxRIGHT HALFkMACRON LEF",
     "T HALFrRIGHT HALFkCONJOINING MACRONkLIGATURE LEFT HALF BELOWtRIGHT HALF BELOWkTILDE LEFT HAL",
     "F BELOWqRIGHT HALF BELOWkMACRON LEFT HALF BELOWrRIGHT HALF BELOWkCONJOINING MACRON BELOWlYRI",
     "LLIC TITLO LEFT HALFzaRIGHT HALFaPRESENTATION FORM FOR VERTICAL TWO DOT LEADERzgEM DASHzhN D",
     "ASHzgLOW LINEzgWAVY LOW LINEzgLEFT PARENTHESISzgRIGHT PARENTHESISzgLEFT CURLY BRACKETzgRIGHT",
     " CURLY BRACKETzgLEFT TORTOISE SHELL BRACKETzgRIGHT TORTOISE SHELL BRACKETzgLEFT BLACK LENTIC",
     "ULAR BRACKETzgRIGHT BLACK LENTICULAR BRACKETzgLEFT DOUBLE ANGLE BRACKETzgRIGHT DOUBLE ANGLE ",
     "BRACKETzgLEFT ANGLE BRACKETzgRIGHT ANGLE BRACKETzgLEFT CORNER BRACKETzgRIGHT CORNER BRACKETz",
     "gLEFT WHITE CORNER BRACKETzgRIGHT WHITE CORNER BRACKETaSESAME DOTaWHITE SESAME DOTaPRESENTAT",
     "ION FORM FOR VERTICAL LEFT SQUARE BRACKETzgRIGHT SQUARE BRACKETaDASHED OVERLINEaCENTRELINE O",
     "VERLINEaWAVY OVERLINEaDOUBLE WAVY OVERLINEbASHED LOW LINEaCENTRELINE LOW LINEaWAVY LOW LINEa",
     "SMALL COMMAgIDEOGRAPHIC COMMAgFULL STOP"]⟩,
   ⟨65108, ["aSMALL SEMICOLONgCOLONgQUESTION MARKgEXCLAMATION MARKhM DASHgLEFT PARENTHESISgRIGHT P",
     "ARENTHESISgLEFT CURLY BRACKETgRIGHT CURLY BRACKETgLEFT TORTOISE SHELL BRACKETgRIGHT TORTOISE",
     " SHELL BRACKETgNUMBER SIGNgAMPERSANDhSTERISKgPLUS SIGNgHYPHEN-MINUSgLESS-THAN SIGNgGREATER-T",
     "HAN SIGNgEQUALS SIGN"]⟩,
   ⟨65128, ["aSMALL REVERSE SOLIDUSgDOLLAR SIGNgPERCENT SIGNgCOMMERCIAL AT"]⟩,
   ⟨65136, ["aARABIC FATHATAN ISOLATED FORMhTATWEEL WITH FATHATAN ABOVEhDAMMATAN ISOLATED FORMhTAI",
     "L FRAGMENThKASRATAN ISOLATED FORM"]⟩,
   ⟨65142, ["aARABIC FATHA ISOLATED FORMnMEDIAL FORMhDAMMA ISOLATED FORMnMEDIAL FORMhKASRA ISOLATE",
     "D FORMnMEDIAL FORMhSHADDA ISOLATED FORMoMEDIAL FORMiUKUN ISOLATED FORMnMEDIAL FORMhLETTER HA",
     "MZA ISOLATED FORMoALEF WITH MADDA ABOVE ISOLATED FORMzlFINAL FORMyHAMZA ABOVE ISOLATED FORMz",
     "lFINAL FORMoWAW WITH HAMZA ABOVE ISOLATED FORMzkFINAL FORMoALEF WITH HAMZA BELOW ISOLATED FO",
     "RMzlFINAL FORMoYEH WITH HAMZA ABOVE ISOLATED FORMzkFINAL FORMzkINITIAL FORMzkMEDIAL FORMoALE",
     "F ISOLATED FORMtFINAL FORMoBEH ISOLATED FORMsFINAL FORMsINITIAL FORMsMEDIAL FORMoTEH MARBUTA",
     " ISOLATED FORMzbFINAL FORMsISOLATED FORMsFINAL FORMsINITIAL FORMsMEDIAL FORMpHEH ISOLATED FO",
     "RMtFINAL FORMtINITIAL FORMtMEDIAL FORMoJEEM ISOLATED FORMtFINAL FORMtINITIAL FORMtMEDIAL FOR",
     "MoHAH ISOLATED FORMsFINAL FORMsINITIAL FORMsMEDIAL FORMoKHAH ISOLATED FORMtFINAL FORMtINITIA",
     "L FORMtMEDIAL FORMoDAL ISOLATED FORMsFINAL FORMoTHAL ISOLATED FORMtFINAL FORMoREH ISOLATED F",
     "ORMsFINAL FORMoZAIN ISOLATED FORMtFINAL FORMoSEEN ISOLATED FORMtFINAL FORMtINITIAL FORMtMEDI",
     "AL FORMpHEEN ISOLATED FORMuFINAL FORMuINITIAL FORMuMEDIAL FORMpAD ISOLATED FORMsFINAL FORMsI",
     "NITIAL FORMsMEDIAL FORMoDAD ISOLATED FORMsFINAL FORMsINITIAL FORMsMEDIAL FORMoTAH ISOLATED F",
     "ORMsFINAL FORMsINITIAL FORMsMEDIAL FORMoZAH ISOLATED FORMsFINAL FORMsINITIAL FORMsMEDIAL FOR",
     "MoAIN ISOLATED FORMsFINAL FORMsINITIAL FORMsMEDIAL FORMoGHAIN ISOLATED FORMuFINAL FORMuINITI",
     "AL FORMuMEDIAL FORMoFEH ISOLATED FORMsFINAL FORMsINITIAL FORMsMEDIAL FORMoQAF ISOLATED FORMs",
     "FINAL FORMsINITIAL FORMsMEDIAL FORMoKAF ISOLATED FORMsFINAL FORMsINITIAL FORMsMEDIAL FORMoLA",
     "M ISOLATED FORMsFINAL FORMsINITIAL FORMsMEDIAL FORMoMEEM ISOLATED FORMtFINAL FORMtINITIAL FO",
     "RMtMEDIAL FORMoNOON ISOLATED FORMtFINAL FORMtINITIAL FORMtMEDIAL FORMoHEH ISOLATED FORMsFINA",
     "L FORMsINITIAL FORMsMEDIAL FORMoWAW ISOLATED FORMsFINAL FORMoALEF MAKSURA ISOLATED FORMzcFIN",
     "AL FORMoYEH ISOLATED FORMsFINAL FORMsINITIAL FORMsMEDIAL FORMiIGATURE LAM WITH ALEF WITH MAD",
     "DA ABOVE ISOLATED FORMzwFINAL FORMzkHAMZA ABOVE ISOLATED FORMzwFINAL FORMzqBELOW ISOLATED FO",
     "RMzwFINAL FORMzfISOLATED FORMzfFINAL FORM"]⟩,
   ⟨65279, ["aZERO WIDTH NO-BREAK SPACE"]⟩,
   ⟨65281, ["aFULLWIDTH EXCLAMATION MARKkQUOTATION MARKkNUMBER SIGNkDOLLAR SIGNkPERCENT SIGNkAMPER",
     "SANDlPOSTROPHEkLEFT PARENTHESISkRIGHT PARENTHESISkASTERISKkPLUS SIGNkCOMMAkHYPHEN-MINUSkFULL",
     " STOPkSOLIDUSkDIGIT ZEROqONEqTWOrHREEqFOURrIVEqSIXrEVENqEIGHTqNINEkCOLONkSEMICOLONkLESS-THAN",
     " SIGNkEQUALS SIGNkGREATER-THAN SIGNkQUESTION MARKkCOMMERCIAL ATkLATIN CAPITAL LETTER AzgBzgC",
     "zgDzgEzgFzgGzgHzgIzgJzgKzgLzgMzgNzgOzgPzgQzgRzgSzgTzgUzgVzgWzgXzgYzgZlEFT SQUARE BRACKETkREV",
     "ERSE SOLIDUSlIGHT SQUARE BRACKETkCIRCUMFLEX ACCENTkLOW LINEkGRAVE ACCENTkLATIN SMALL LETTER ",
     "AzeBzeCzeDzeEzeFzeGzeHzeIzeJzeKzeLzeMzeNzeOzePzeQzeRzeSzeTzeUzeVzeWzeXzeYzeZlEFT CURLY BRACK",
     "ETkVERTICAL LINEkRIGHT CURLY BRACKETkTILDEkLEFT WHITE PARENTHESISkRIGHT WHITE PARENTHESISaHA",
     "LFWIDTH IDEOGRAPHIC FULL STOPkLEFT CORNER BRACKETkRIGHT CORNER BRACKETkIDEOGRAPHIC COMMAkKAT",
     "AKANA MIDDLE DOTtLETTER WOzbSMALL AzhIzhUzhEzhOzhYAziUziOzhTUs-HIRAGANA PROLONGED SOUND MARK",
     "s LETTER AzbIzbUzbEzbOzbKAzcIzcUzcEzcOzbSAzcIzcUzcEzcOzbTAzcIzcUzcEzcOzbNAzcIzcUzcEzcOzbHAzc",
     "IzcUzcEzcOzbMAzcIzcUzcEzcOzbYAzcUzcOzbRAzcIzcUzcEzcOzbWAzbNtVOICED SOUND MARKtSEMI-VOICED SO",
     "UND MARKkHANGUL FILLERrLETTER KIYEOKySSANGKIYEOKyKIYEOK-SIOSyNIEUNze-CIEUCzfHIEUHyTIKEUTySSA",
     "NGTIKEUTyRIEULze-KIYEOKzfMIEUMzfPIEUPzfSIOSzfTHIEUTHzfPHIEUPHzfHIEUHyMIEUMyPIEUPySSANGPIEUPy",
     "PIEUP-SIOSySIOSzaSANGSIOSyIEUNGyCIEUCySSANGCIEUCyCHIEUCHyKHIEUKHyTHIEUTHyPHIEUPHyHIEUH"]⟩,
   ⟨65474, ["aHALFWIDTH HANGUL LETTER AzaEyYAzbEyEOza"]⟩,
   ⟨65482, ["aHALFWIDTH HANGUL LETTER YEOzbyOyWAzbEyOE"]⟩,
   ⟨65490, ["aHALFWIDTH HANGUL LETTER YOyUyWEOzbzaIyYU"]⟩,
   ⟨65498, ["aHALFWIDTH HANGUL LETTER EUyYIyI"]⟩,
   ⟨65504, ["aFULLWIDTH CENT SIGNkPOUND SIGNkNOT SIGNkMACRONkBROKEN BARkYEN SIGNkWON SIGN"]⟩,
   ⟨65512, ["aHALFWIDTH FORMS LIGHT VERTICALkLEFTWARDS ARROWkUPWARDS ARROWkRIGHTWARDS ARROWkDOWNWA",
     "RDS ARROWkBLACK SQUAREkWHITE CIRCLE"]⟩,
   ⟨65529, ["aINTERLINEAR ANNOTATION ANCHORxSEPARATORxTERMINATORaOBJECT REPLACEMENT CHARACTERaREPL",
     "ACEMENT CHARACTER"]⟩]

end FixedExtract.Text
